import SkillHost.Text.Utf8

/-! What a file or an environment variable holds: text, or bytes that are no text. -/
namespace SkillHost

/-- Bytes that are valid UTF-8 are `text`; `binary` holds the others. -/
inductive Content where
  | text (text : Text)
  | binary (bytes : List UInt8)

namespace Content

def ofBytes (bytes : List UInt8) : Content :=
  match String.fromUTF8? ⟨bytes.toArray⟩ with
  | some s => .text s.toList
  | none => .binary bytes

def text? : Content → Option Text
  | text t => some t
  | binary _ => none

def bytes : Content → List UInt8
  | text t => Text.toBytes t
  | binary bytes => bytes

/-- Text after the content. Bytes that are no text stay so: text begins with a lead byte, which
completes no unfinished character. -/
def append : Content → Text → Content
  | text t, more => .text (t ++ more)
  | binary bytes, more => .binary (bytes ++ Text.toBytes more)

theorem append_append (content : Content) (more further : Text) :
    (content.append more).append further = content.append (more ++ further) := by
  cases content <;> simp [append, Text.toBytes]

end Content

end SkillHost
