import DeployChecks.Json.Decode

/-!
# CheckGroup — before and after a deployment

A phase item declares one list of checks for each group.
-/

namespace DeployChecks

/-- **A group of checks.** -/
inductive CheckGroup where
  /-- The checks before the deployment. -/
  | pre
  /-- The checks after the deployment. -/
  | post
  deriving DecidableEq, Repr

namespace CheckGroup

/-- The short name of a group, which starts the names of its tasks. -/
def tag : CheckGroup → String
  | pre => "pre"
  | post => "post"

theorem tag_injective {a b : CheckGroup} (h : a.tag = b.tag) : a = b := by
  cases a <;> cases b <;> first | rfl | exact absurd h (by decide)

instance : Json.Codec CheckGroup where
  encode g := .string g.tag
  decode := Json.Decoder.choice [(pre.tag, pre), (post.tag, post)]

end CheckGroup

end DeployChecks
