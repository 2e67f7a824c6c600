namespace LetLang

structure Span where
  start : Nat
  stop : Nat
  deriving DecidableEq, Repr

namespace Span

def zero : Span := ⟨0,0⟩

instance : Inhabited Span := ⟨zero⟩

def length? (s : Span) : Option Nat :=
  if s.start ≤ s.stop then some (s.stop - s.start) else none

theorem length?_isSome_iff {s : Span} : s.length?.isSome ↔ s.start ≤ s.stop := by
  unfold length?
  split <;> simp_all

def isEmpty (s : Span) : Bool :=
  s.start == s.stop

def holdsNothing (s : Span) : Bool :=
  !decide (s.start < s.stop)

def merge (s t : Span) : Span :=
  ⟨min s.start t.start,max s.stop t.stop⟩

def shift (n : Nat) (s : Span) : Span :=
  ⟨s.start + n,s.stop + n⟩

end Span

end LetLang
