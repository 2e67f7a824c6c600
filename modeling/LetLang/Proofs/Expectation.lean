import LetLang.Proofs.Recognition

namespace LetLang

inductive Expectation where
  | start
  | keyword
  | name (l : Token)
  | assign (l n : Token)
  | stop (l n : Token)
  deriving DecidableEq, Repr

namespace Expectation

def afresh (t : Token) : Expectation :=
  if t.kind = .punctuation .semicolon then start
  else if t.kind = .keyword .letKey then name t
  else keyword

def next (t : Token) : Expectation → Expectation
  | start => afresh t
  | keyword => afresh t
  | name l => if t.kind = .ident then assign l t else afresh t
  | assign l n => if t.kind = .operator .assign then stop l n else afresh t
  | stop l n => if t.kind = .punctuation .semicolon then start else stop l n

def statement? (t : Token) : Expectation → Option Statement
  | stop l n =>
    if t.kind = .punctuation .semicolon then
      some (.letStatement ⟨l,.ofToken n,none,⟨l.span.start,t.span.stop⟩⟩)
    else none
  | _ => none

def fault? (t : Token) : Expectation → Option Fault
  | start =>
    if t.kind = .punctuation .semicolon ∨ t.kind = .keyword .letKey ∨ t.kind = .eof then none
    else some (.unsupportedAt t)
  | keyword => none
  | name _ => if t.kind = .ident then none else some (.unexpectedAt .ident t)
  | assign _ _ =>
    if t.kind = .operator .assign then none else some (.unexpectedAt (.operator .assign) t)
  | stop _ _ =>
    if t.kind = .eof then some (.unexpectedAt (.punctuation .semicolon) t) else none

section
variable {t : Token} {e : Expectation}

theorem stop_of_statement? {s : Statement} (h : e.statement? t = some s) :
    t.kind = .punctuation .semicolon ∧ s.span.stop = t.span.stop := by
  cases e with
  | stop l n =>
    rw [statement?, Option.ite_none_right_eq_some] at h
    obtain ⟨hk,hs⟩ := h
    cases hs
    exact ⟨hk,rfl⟩
  | start | keyword | name l | assign l n => cases h

theorem place_of_fault? {f : Fault} (h : e.fault? t = some f) :
    f.found = t.kind ∧ f.span = t.span := by
  cases e with
  | start =>
    rw [fault?, Option.ite_none_left_eq_some] at h
    cases h.2
    exact ⟨rfl,rfl⟩
  | keyword => cases h
  | name l | assign l n =>
    rw [fault?, Option.ite_none_left_eq_some] at h
    cases h.2
    exact ⟨rfl,rfl⟩
  | stop l n =>
    rw [fault?, Option.ite_none_right_eq_some] at h
    cases h.2
    exact ⟨rfl,rfl⟩

end

section
variable {α : Type} (out : Token → Expectation → Option α)

def read (e : Expectation) : List Token → List α
  | [] => []
  | t :: ts => (out t e).toList ++ read (e.next t) ts

theorem read_append (e : Expectation) (ts us : List Token) :
    read out e (ts ++ us) = read out e ts ++ read out (ts.foldl (fun d t => d.next t) e) us := by
  induction ts generalizing e with
  | nil => rfl
  | cons t ts ih =>
    rw [List.cons_append, read, ih, read, List.append_assoc]
    rfl

theorem exists_of_mem_read {e : Expectation} {ts : List Token} {x : α} (h : x ∈ read out e ts) :
    ∃ t ∈ ts, ∃ d, out t d = some x := by
  induction ts generalizing e with
  | nil => cases h
  | cons t ts ih =>
    rcases List.mem_append.mp h with h | h
    · exact ⟨t,List.mem_cons_self,e,Option.mem_toList.mp h⟩
    · obtain ⟨u,hu,hd⟩ := ih h
      exact ⟨u,List.mem_cons_of_mem t hu,hd⟩

theorem filter_read_append {p : α → Bool} {us : List Token}
    (h : ∀ t ∈ us, ∀ e x, out t e = some x → ¬p x) (e : Expectation) (ts : List Token) :
    (read out e (ts ++ us)).filter p = (read out e ts).filter p := by
  have hnil (d : Expectation) : (read out d us).filter p = [] := by
    refine List.filter_eq_nil_iff.mpr (fun x hx => ?_)
    obtain ⟨t,ht,d,hd⟩ := exists_of_mem_read out hx
    exact h t ht d x hd
  rw [read_append, List.filter_append, hnil, List.append_nil]

end

inductive Awaits : Expectation → Bool → List Token → Prop
  | start : Awaits start true []
  | keyword : Awaits keyword false []
  | name {l : Token} (b : Bool) (hl : l.kind = .keyword .letKey) : Awaits (name l) b [l]
  | assign {l n : Token} (b : Bool) (hl : l.kind = .keyword .letKey) (hn : n.kind = .ident) :
      Awaits (assign l n) b [l, n]
  | stop {l n a : Token} (b : Bool) (hl : l.kind = .keyword .letKey) (hn : n.kind = .ident)
      (ha : a.kind = .operator .assign) : Awaits (stop l n) b [l, n, a]

section
variable (last t : Token) (ts : List Token)

def Steps (e : Expectation) (b : Bool) (us : List Token) : Prop :=
  ∃ c vs, Awaits (e.next t) c vs ∧
    statementsOf last (us ++ t :: ts) = (e.statement? t).toList ++ statementsOf last (vs ++ ts) ∧
      faultsFrom b last (us ++ t :: ts) = (e.fault? t).toList ++ faultsFrom c last (vs ++ ts)

variable {last t ts}

theorem steps_start (he : t.kind ≠ .eof) : Steps last t ts start true [] := by
  rcases eq_or_ne t.kind (.punctuation .semicolon) with hs | hs
  · refine ⟨true,[],?_,statementsOf_semicolon hs,?_⟩
    · simpa only [next, afresh, if_pos hs] using .start
    · simpa [fault?, hs] using faultsFrom_semicolon true hs
  rcases eq_or_ne t.kind (.keyword .letKey) with hl | hl
  · refine ⟨true,[t],?_,rfl,?_⟩
    · simpa only [next, afresh, if_neg hs, if_pos hl] using .name true hl
    · simp [fault?, hl]
  · refine ⟨false,[],?_,statementsOf_other hs hl,?_⟩
    · simpa only [next, afresh, if_neg hs, if_neg hl] using .keyword
    · simpa [fault?, hs, hl, he] using faultsFrom_other true hs hl

theorem steps_keyword : Steps last t ts keyword false [] := by
  rcases eq_or_ne t.kind (.punctuation .semicolon) with hs | hs
  · refine ⟨true,[],?_,statementsOf_semicolon hs,faultsFrom_semicolon false hs⟩
    simpa only [next, afresh, if_pos hs] using .start
  rcases eq_or_ne t.kind (.keyword .letKey) with hl | hl
  · refine ⟨false,[t],?_,rfl,rfl⟩
    simpa only [next, afresh, if_neg hs, if_pos hl] using .name false hl
  · refine ⟨false,[],?_,statementsOf_other hs hl,faultsFrom_other false hs hl⟩
    simpa only [next, afresh, if_neg hs, if_neg hl] using .keyword

theorem Steps.of_broken_off {e : Expectation} {b : Bool} {us : List Token} {f : Fault}
    (hnext : e.next t = keyword.next t) (hnone : e.statement? t = none)
    (hfault : e.fault? t = some f)
    (hst : statementsOf last (us ++ t :: ts) = statementsOf last (t :: ts))
    (hf : faultsFrom b last (us ++ t :: ts) = f :: faultsFrom false last (t :: ts)) :
    Steps last t ts e b us := by
  obtain ⟨c,vs,hw,hst',hf'⟩ := @steps_keyword last t ts
  refine ⟨c,vs,?_,?_,?_⟩
  · rwa [hnext]
  · rw [hst, hnone]
    exact hst'
  · rw [hf, hfault]
    exact congrArg (List.cons f) hf'

variable {l n a : Token} (b : Bool) (hl : l.kind = .keyword .letKey)
include hl

theorem steps_name : Steps last t ts (name l) b [l] := by
  rcases eq_or_ne t.kind .ident with hi | hi
  · refine ⟨b,[l, t],?_,rfl,?_⟩
    · simpa only [next, if_pos hi] using .assign b hl hi
    · simp [fault?, hi]
  · have hhead : ((t :: ts).headD last).kind ≠ .ident := hi
    exact .of_broken_off (if_neg hi) rfl (if_neg hi) (statementsOf_let_unnamed hl hhead)
      (faultsFrom_let_unnamed b hl hhead)

variable (hn : n.kind = .ident)
include hn

theorem steps_assign : Steps last t ts (assign l n) b [l, n] := by
  rcases eq_or_ne t.kind (.operator .assign) with ha | ha
  · refine ⟨b,[l, n, t],?_,rfl,?_⟩
    · simpa only [next, if_pos ha] using .stop b hl hn ha
    · simp [fault?, ha]
  · have hhead : ((t :: ts).headD last).kind ≠ .operator .assign := ha
    exact .of_broken_off (if_neg ha) rfl (if_neg ha) (statementsOf_let_unassigned hl hn hhead)
      (faultsFrom_let_unassigned b hl hn hhead)

variable (ha : a.kind = .operator .assign)
include ha

theorem cut_let : Segment.cut last (l :: n :: a :: ts) =
    ((((Segment.cut last ts).1.cons a).cons n).cons l, (Segment.cut last ts).2) := by
  have hls : l.kind ≠ .punctuation .semicolon := by simp [hl]
  have hns : n.kind ≠ .punctuation .semicolon := by simp [hn]
  have has : a.kind ≠ .punctuation .semicolon := by simp [ha]
  rw [Segment.cut_cons hls, Segment.cut_cons hns, Segment.cut_cons has]

theorem steps_stop (he : t.kind ≠ .eof) : Steps last t ts (stop l n) b [l, n, a] := by
  rcases eq_or_ne t.kind (.punctuation .semicolon) with hs | hs
  · have hvs : ∀ v ∈ ([] : List Token), v.kind ≠ .punctuation .semicolon := by simp
    refine ⟨true,[],?_,?_,?_⟩
    · simpa only [next, if_pos hs] using .start
    · simpa [statement?, hs] using statementsOf_let_closed hl hn ha hvs hs
    · simpa [fault?, hs] using faultsFrom_let_closed b hl hn ha hvs hs
  · refine ⟨b,[l, n, a],?_,?_,?_⟩
    · simpa only [next, if_neg hs] using .stop b hl hn ha
    · simp only [statement?, if_neg hs, List.cons_append, List.nil_append, Option.toList_none,
        statementsOf, segments, cut_let hl hn ha, Segment.cut_cons hs, List.filterMap_cons,
        Segment.statement?, Segment.cons, firstLet?_let hl hn ha]
      rfl
    · simp only [fault?, if_neg he, List.cons_append, List.nil_append, Option.toList_none,
        faultsFrom, cut_let hl hn ha, Segment.cut_cons hs, Segment.letFaults, Segment.endFaults,
        Segment.cons, firstLet?_let hl hn ha]
      rfl

end

theorem Awaits.steps {last t : Token} {ts us : List Token} {e : Expectation} {b : Bool}
    (h : Awaits e b us) (he : t.kind ≠ .eof) : Steps last t ts e b us := by
  cases h with
  | start => exact steps_start he
  | keyword => exact steps_keyword
  | name b hl => exact steps_name b hl
  | assign b hl hn => exact steps_assign b hl hn
  | stop b hl hn ha => exact steps_stop b hl hn ha he

theorem Awaits.finish {last : Token} {us : List Token} {e : Expectation} {b : Bool}
    (h : Awaits e b us) (he : last.kind = .eof) :
    statementsOf last us = (e.statement? last).toList ∧
      faultsFrom b last us = (e.fault? last).toList := by
  cases h with
  | start => exact ⟨statementsOf_nil last,by simp [faultsFrom_nil, fault?, he]⟩
  | keyword => exact ⟨statementsOf_nil last,faultsFrom_nil false last⟩
  | name b hl =>
    have hi : (([] : List Token).headD last).kind ≠ .ident := by simp [he]
    rw [statementsOf_let_unnamed hl hi, faultsFrom_let_unnamed b hl hi, statementsOf_nil,
      faultsFrom_nil]
    exact ⟨rfl,by simp [fault?, he]⟩
  | assign b hl hn =>
    have ha : (([] : List Token).headD last).kind ≠ .operator .assign := by simp [he]
    rw [statementsOf_let_unassigned hl hn ha, faultsFrom_let_unassigned b hl hn ha,
      statementsOf_nil, faultsFrom_nil]
    exact ⟨rfl,by simp [fault?, he]⟩
  | stop b hl hn ha =>
    have hvs : ∀ v ∈ ([] : List Token), v.kind ≠ .punctuation .semicolon := by simp
    rw [statementsOf_let_open hl hn ha hvs he, faultsFrom_let_open b hl hn ha hvs he]
    exact ⟨by simp [statement?, he],by simp [fault?, he]⟩

-- By induction on the tokens to come, from any expectation.
theorem Awaits.yield {last : Token} {ts us : List Token} {e : Expectation} {b : Bool}
    (h : Awaits e b us) (hts : ∀ t ∈ ts, t.kind ≠ .eof) (he : last.kind = .eof) :
    statementsOf last (us ++ ts) = e.read statement? (ts ++ [last]) ∧
      faultsFrom b last (us ++ ts) = e.read fault? (ts ++ [last]) := by
  induction ts generalizing e b us with
  | nil => simpa only [read, List.nil_append, List.append_nil] using h.finish he
  | cons t ts ih =>
    have hstep : Steps last t ts e b us := h.steps (hts t List.mem_cons_self)
    obtain ⟨c,vs,hw,hst,hf⟩ := hstep
    obtain ⟨h1,h2⟩ := ih hw (fun u hu => hts u (List.mem_cons_of_mem t hu))
    rw [hst, hf, h1, h2]
    exact ⟨rfl,rfl⟩

end Expectation

theorem Lexer.kind_ne_eof_of_mem {lx : Lexer} {t : Token} (h : t ∈ lx.tokens) : t.kind ≠ .eof := by
  induction lx using stream_induction with
  | eof lx he =>
    rw [tokens_of_eof he] at h
    cases h
  | token lx he ih =>
    rw [tokens_of_ne_eof he] at h
    rcases List.mem_cons.mp h with rfl | h
    · exact he
    · exact ih h

theorem ParseResult.ofBytes_eq_read (bytes : List UInt8) :
    ParseResult.ofBytes bytes =
      ⟨⟨Expectation.start.read Expectation.statement? (lex bytes)⟩,
        Expectation.start.read Expectation.fault? (lex bytes)⟩ := by
  have hts : ∀ t ∈ (Lexer.ofBytes bytes).tokens, t.kind ≠ .eof :=
    fun t ht => Lexer.kind_ne_eof_of_mem ht
  have hlast : (Lexer.ofBytes bytes).last.kind = .eof := rfl
  obtain ⟨hst,hf⟩ := Expectation.Awaits.start.yield hts hlast
  rw [List.nil_append] at hst hf
  rw [ofBytes_eq, Lexer.lex_eq, ← hst, ← hf, faultsFrom_true]

end LetLang
