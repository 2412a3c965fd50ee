import SkillHost.Credentials.Coding
import SkillHost.Program
import SkillHost.Proofs.Dotenv.BareLines
import SkillHost.Proofs.Dotenv.Comment
import SkillHost.Proofs.Dotenv.InStep
import SkillHost.Proofs.Dotenv.LineEnds
import SkillHost.Proofs.Dotenv.OwnKey
import SkillHost.Proofs.Dotenv.RoundTrip
import SkillHost.Proofs.Dotenv.Stale
import SkillHost.Proofs.Dotenv.Verbatim
import SkillHost.Proofs.Json.Lossless
import SkillHost.Proofs.Log.Apart
import SkillHost.Proofs.Log.Settled
import SkillHost.Proofs.Settings.Layers
import SkillHost.Proofs.Settings.Opening
import SkillHost.Proofs.Settings.Resolution
import SkillHost.Proofs.Settings.Secrecy
import SkillHost.Proofs.Skill.Accounts
import SkillHost.Proofs.Skill.Isolation
import SkillHost.Proofs.Skill.Listing
import SkillHost.Proofs.Skill.Nanoseconds
import SkillHost.Proofs.Skill.Overlap
import SkillHost.Proofs.Skill.Respelling
import SkillHost.Proofs.Skill.Waiting
import SkillHost.Settings.Resolver
import SkillHost.Skill.Coding
import SkillHost.Skill.Dispatch
import SkillHost.Skill.Wait
