import Mathlib.Logic.Basic
import LetLang.Tree.Basic
import LetLang.Tree.Fault

namespace LetLang

def Fault.unexpectedAt (expected : Kind) (t : Token) : Fault :=
  .unexpectedToken expected t.kind t.span

def Fault.unsupportedAt (t : Token) : Fault :=
  .unsupportedStatement t.kind t.span

structure Segment where
  body : List Token
  stop : Token
  deriving DecidableEq, Repr

namespace Segment

def cons (t : Token) (s : Segment) : Segment :=
  { s with body := t :: s.body }

def cut (last : Token) : List Token → Segment × List Segment
  | [] => (⟨[],last⟩, [])
  | t :: ts =>
    if t.kind = .punctuation .semicolon then (⟨[],t⟩, (cut last ts).1 :: (cut last ts).2)
    else ((cut last ts).1.cons t, (cut last ts).2)

theorem cut_semicolon {t : Token} (h : t.kind = .punctuation .semicolon) (last : Token)
    (ts : List Token) : cut last (t :: ts) = (⟨[],t⟩, (cut last ts).1 :: (cut last ts).2) := by
  rw [cut, if_pos h]

theorem cut_cons {t : Token} (h : t.kind ≠ .punctuation .semicolon) (last : Token)
    (ts : List Token) : cut last (t :: ts) = ((cut last ts).1.cons t, (cut last ts).2) := by
  rw [cut, if_neg h]

@[elab_as_elim]
theorem cut_induction {motive : List Token → Prop} (ts : List Token) (nil : motive [])
    (semicolon : ∀ t ts, t.kind = .punctuation .semicolon → motive ts → motive (t :: ts))
    (other : ∀ t ts, t.kind ≠ .punctuation .semicolon → motive ts → motive (t :: ts)) :
    motive ts := by
  induction ts with
  | nil => exact nil
  | cons t ts ih =>
    rcases eq_or_ne t.kind (.punctuation .semicolon) with h | h
    · exact semicolon t ts h ih
    · exact other t ts h ih

def token (s : Segment) (k : Nat) : Token :=
  s.body.getD k s.stop

@[simp]
theorem token_cons_zero (t : Token) (s : Segment) : (s.cons t).token 0 = t := rfl

@[simp]
theorem token_cons_succ (t : Token) (s : Segment) (k : Nat) :
    (s.cons t).token (k + 1) = s.token k := rfl

@[simp]
theorem stop_cons (t : Token) (s : Segment) : (s.cons t).stop = s.stop := rfl

theorem token_cut_zero (last : Token) (ts : List Token) :
    (cut last ts).1.token 0 = ts.headD last := by
  induction ts using cut_induction with
  | nil => rfl
  | semicolon t ts h ih =>
    rw [cut_semicolon h]
    rfl
  | other t ts h ih =>
    rw [cut_cons h]
    rfl

end Segment

def segments (last : Token) (ts : List Token) : List Segment :=
  (Segment.cut last ts).1 :: (Segment.cut last ts).2

theorem segments_nil (last : Token) : segments last [] = [⟨[],last⟩] := rfl

theorem segments_semicolon {t : Token} (h : t.kind = .punctuation .semicolon) (last : Token)
    (ts : List Token) : segments last (t :: ts) = ⟨[],t⟩ :: segments last ts := by
  rw [segments, Segment.cut_semicolon h]
  rfl

theorem segments_append_semicolon {t : Token} (h : t.kind = .punctuation .semicolon)
    (last : Token) (ts us : List Token) :
    segments last (ts ++ t :: us) = segments t ts ++ segments last us := by
  induction ts using Segment.cut_induction with
  | nil => exact segments_semicolon h last us
  | semicolon u ts hu ih =>
    rw [List.cons_append, segments_semicolon hu, segments_semicolon hu, ih]
    rfl
  | other u ts hu ih =>
    simp only [segments, List.cons_append, List.cons.injEq, Segment.cut_cons hu] at ih ⊢
    exact ⟨congrArg (Segment.cons u) ih.1,ih.2⟩

theorem segments_of_no_semicolon {ts : List Token}
    (h : ∀ t ∈ ts, t.kind ≠ .punctuation .semicolon) (last : Token) :
    segments last ts = [⟨ts,last⟩] := by
  induction ts with
  | nil => rfl
  | cons t ts ih =>
    have hs := ih (fun u hu => h u (List.mem_cons_of_mem t hu))
    simp only [segments, List.cons.injEq] at hs ⊢
    rw [Segment.cut_cons (h t List.mem_cons_self), hs.1, hs.2]
    exact ⟨rfl,rfl⟩

theorem segments_flatten (last : Token) (ts : List Token) :
    (segments last ts).flatMap (fun s => s.body ++ [s.stop]) = ts ++ [last] := by
  induction ts using Segment.cut_induction with
  | nil => rfl
  | semicolon t ts h ih =>
    rw [segments_semicolon h, List.flatMap_cons, ih]
    rfl
  | other t ts h ih =>
    simp only [segments, Segment.cut_cons h, List.flatMap_cons, Segment.cons,
      List.cons_append] at ih ⊢
    rw [ih]

theorem ne_semicolon_of_mem_body {last : Token} {ts : List Token} {s : Segment}
    (hs : s ∈ segments last ts) {t : Token} (ht : t ∈ s.body) :
    t.kind ≠ .punctuation .semicolon := by
  induction ts using Segment.cut_induction generalizing s with
  | nil =>
    rw [segments_nil, List.mem_singleton] at hs
    subst hs
    cases ht
  | semicolon u ts hu ih =>
    rw [segments_semicolon hu] at hs
    rcases List.mem_cons.mp hs with rfl | hs
    · cases ht
    · exact ih hs ht
  | other u ts hu ih =>
    simp only [segments, Segment.cut_cons hu] at hs
    rcases List.mem_cons.mp hs with rfl | hs
    · rcases List.mem_cons.mp ht with rfl | ht
      · exact hu
      · exact ih List.mem_cons_self ht
    · exact ih (List.mem_cons_of_mem _ hs) ht

theorem map_stop_segments (last : Token) (ts : List Token) :
    (segments last ts).map Segment.stop =
      ts.filter (fun t => t.kind = .punctuation .semicolon) ++ [last] := by
  induction ts using Segment.cut_induction with
  | nil => rfl
  | semicolon t ts h ih =>
    rw [segments_semicolon h, List.map_cons, ih, List.filter_cons_of_pos (by simpa using h)]
    rfl
  | other t ts h ih =>
    rw [List.filter_cons_of_neg (by simpa using h), ← ih]
    simp only [segments, Segment.cut_cons h, List.map_cons, Segment.stop_cons]

def LetAt (ts : List Token) (k : Nat) : Prop :=
  ts[k]?.map Token.kind = some (.keyword .letKey) ∧
    ts[k + 1]?.map Token.kind = some .ident ∧
      ts[k + 2]?.map Token.kind = some (.operator .assign)

instance (ts : List Token) : DecidablePred (LetAt ts) :=
  fun _ => inferInstanceAs (Decidable (_ ∧ _ ∧ _))

theorem LetAt.lt_length {ts : List Token} {k : Nat} (h : LetAt ts k) : k < ts.length := by
  obtain ⟨t,ht,_⟩ := Option.map_eq_some_iff.mp h.1
  exact (List.getElem?_eq_some_iff.mp ht).1

def firstLet? (ts : List Token) : Option Nat :=
  (List.range ts.length).find? (fun k => LetAt ts k)

theorem firstLet?_eq_some_iff {ts : List Token} {k : Nat} :
    firstLet? ts = some k ↔ LetAt ts k ∧ ∀ j < k, ¬LetAt ts j := by
  simp only [firstLet?, List.find?_range_eq_some, decide_eq_true_eq, List.mem_range,
    Bool.not_eq_true', decide_eq_false_iff_not]
  exact ⟨fun h => ⟨h.1,h.2.2⟩,fun h => ⟨h.1,h.1.lt_length,h.2⟩⟩

theorem firstLet?_eq_none_iff {ts : List Token} : firstLet? ts = none ↔ ∀ k, ¬LetAt ts k := by
  simp only [firstLet?, List.find?_eq_none, List.mem_range, decide_eq_true_eq]
  exact ⟨fun h k hk => h k hk.lt_length hk,fun h k _ => h k⟩

theorem firstLet?_cons {t : Token} {ts : List Token} (h : ¬LetAt (t :: ts) 0) :
    firstLet? (t :: ts) = (firstLet? ts).map (· + 1) := by
  rw [firstLet?, List.length_cons, List.range_succ_eq_map, List.find?_cons, decide_eq_false h,
    List.find?_map]
  rfl

end LetLang
