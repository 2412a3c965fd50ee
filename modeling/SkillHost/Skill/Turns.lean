/-! Turns among things that are due at the same moment. They get their turns in rounds, of which
each lets only so many of them end; the others are left to the next round, where the last of them
comes first. -/
namespace SkillHost.Turns
variable {α : Type}

def limit : Nat := 128

/-- Parts what is due into what gets its turn in this round and what is left to the next one.
`room` more may end in it; with the last of them the round is over. -/
def round (ends : α → Bool) : Nat → List α → List α × List α
  | _, [] => ([], [])
  | 0, a :: rest => ([], a :: rest)
  | room + 1, a :: rest =>
    let parts := round ends (if ends a then room else room + 1) rest
    (a :: parts.1, parts.2)

theorem round_append (ends : α → Bool) (room : Nat) (l : List α) :
    (round ends room l).1 ++ (round ends room l).2 = l := by
  fun_induction round ends room l with
  | case1 => rfl
  | case2 => rfl
  | case3 room a rest parts ih => exact congrArg (a :: ·) ih

theorem length_left_lt (ends : α → Bool) (room : Nat) (a : α) (rest : List α) :
    (round ends (room + 1) (a :: rest)).2.length < (a :: rest).length := by
  have h := congrArg List.length
    (round_append ends (if ends a then room else room + 1) rest)
  rw [List.length_append] at h
  simp only [round, List.length_cons]
  omega

def rounds (ends : α → Bool) : List α → List (List α)
  | [] => []
  | a :: rest =>
    let parts := round ends limit (a :: rest)
    parts.1 :: rounds ends parts.2.reverse
termination_by l => l.length
decreasing_by
  rw [List.length_reverse]
  exact length_left_lt ends _ a rest

theorem rounds_flatten_perm (ends : α → Bool) (l : List α) : (rounds ends l).flatten.Perm l := by
  fun_induction rounds ends l with
  | case1 => exact .nil
  | case2 a rest parts ih =>
    refine ((ih.trans (List.reverse_perm _)).append_left _).trans ?_
    rw [round_append]

end SkillHost.Turns
