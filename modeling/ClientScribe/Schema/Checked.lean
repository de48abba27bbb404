import ClientScribe.Schema.Issue

/-!
Checking that collects.  A check gives a value or every issue it found; checks of the parts of a
record run side by side, so that none hides the issues of another.
-/

namespace ClientScribe

universe u v

inductive Checked (α : Type u) where
  | ok (value : α)
  | rejected (issues : List Issue)

namespace Checked

variable {α : Type u} {β : Type v}

def issues : Checked α → List Issue
  | .ok _ => []
  | .rejected issues => issues

def map (f : α → β) : Checked α → Checked β
  | .ok a => .ok (f a)
  | .rejected issues => .rejected issues

/-- Both checks run; the issues of the first come first. -/
def ap : Checked (α → β) → Checked α → Checked β
  | .ok f, .ok a => .ok (f a)
  | .ok _, .rejected issues => .rejected issues
  | .rejected issues, other => .rejected (issues ++ other.issues)

/-- The check of a list from those of its first item and of the others. -/
def cons (head : Checked α) (tail : Checked (List α)) : Checked (List α) :=
  ap (head.map List.cons) tail

/-- The same issues, seen from one step further out. -/
def under (step : Issue.Step) : Checked α → Checked α
  | .ok a => .ok a
  | .rejected issues => .rejected (issues.map fun i => { i with path := step :: i.path })

/-- Refuses the value as a whole. -/
def refuse (reason : Reason) : Checked α := .rejected [⟨[], reason⟩]

@[simp] theorem map_ok (f : α → β) (a : α) : (ok a).map f = ok (f a) := rfl

@[simp] theorem ap_ok (f : α → β) (a : α) : ap (ok f) (ok a) = ok (f a) := rfl

@[simp] theorem under_ok (step : Issue.Step) (a : α) : (ok a).under step = ok a := rfl

@[simp] theorem cons_ok (a : α) (as : List α) : cons (ok a) (ok as) = ok (a :: as) := rfl

/-- A pair of checks succeeds only if both do. -/
theorem ap_eq_ok_iff {f : Checked (α → β)} {a : Checked α} {b : β} :
    ap f a = ok b ↔ ∃ g x, f = ok g ∧ a = ok x ∧ g x = b := by
  cases f <;> cases a <;> simp [ap]

theorem under_eq_ok_iff {c : Checked α} {step : Issue.Step} {a : α} :
    c.under step = ok a ↔ c = ok a := by
  cases c <;> simp [under]

end Checked

end ClientScribe
