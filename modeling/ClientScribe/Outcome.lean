import ClientScribe.Notice

/-!
What a piece of work gave: what was noticed on the way, and a value or the fault that ended it.
-/

namespace ClientScribe

universe u v

structure Outcome (ε : Type u) (α : Type v) where
  notices : List Notice
  result : Except ε α

namespace Outcome

variable {ε ε' : Type u} {α β : Type v}

def done (a : α) : Outcome ε α := ⟨[], .ok a⟩

def fail (fault : ε) : Outcome ε α := ⟨[], .error fault⟩

def map (f : α → β) (o : Outcome ε α) : Outcome ε β := ⟨o.notices, o.result.map f⟩

def mapFault (f : ε → ε') (o : Outcome ε α) : Outcome ε' α := ⟨o.notices, o.result.mapError f⟩

/-- Goes on with the value; the notices of what follows come last. -/
def andThen (o : Outcome ε α) (next : α → Outcome ε β) : Outcome ε β :=
  match o.result with
  | .error fault => ⟨o.notices, .error fault⟩
  | .ok a => ⟨o.notices ++ (next a).notices, (next a).result⟩

/-- Does a piece of work for each item in turn, up to the first fault, and gathers what came out. -/
def forEach (work : α → Outcome ε (List β)) : List α → Outcome ε (List β)
  | [] => done []
  | a :: as => (work a).andThen fun bs => (forEach work as).map (bs ++ ·)

end Outcome

end ClientScribe
