import LetLang.Proofs.Segment

namespace LetLang

namespace Segment

def letStatement (s : Segment) (k : Nat) : LetStatement :=
  ⟨s.token k,.ofToken (s.token (k + 1)),none,⟨(s.token k).span.start,s.stop.span.stop⟩⟩

def statement? (s : Segment) : Option Statement :=
  if s.stop.kind = .punctuation .semicolon then
    (firstLet? s.body).map (fun k => .letStatement (s.letStatement k))
  else none

def leadFaults (s : Segment) : List Fault :=
  match s.body with
  | [] => []
  | t :: _ => if t.kind = .keyword .letKey then [] else [.unsupportedAt t]

def letFault (s : Segment) (i : Nat) : Fault :=
  if (s.token (i + 1)).kind = .ident then .unexpectedAt (.operator .assign) (s.token (i + 2))
  else .unexpectedAt .ident (s.token (i + 1))

def letFaults (s : Segment) : List Fault :=
  ((List.range ((firstLet? s.body).getD s.body.length)).filter
    (fun i => (s.token i).kind = .keyword .letKey)).map s.letFault

def endFaults (s : Segment) : List Fault :=
  if (firstLet? s.body).isSome ∧ s.stop.kind = .eof then
    [.unexpectedAt (.punctuation .semicolon) s.stop]
  else []

def faults (s : Segment) : List Fault :=
  s.leadFaults ++ s.letFaults ++ s.endFaults

variable {t : Token} {s : Segment}

theorem statement?_eq_some_iff {x : Statement} :
    s.statement? = some x ↔ s.stop.kind = .punctuation .semicolon ∧
      ∃ k, LetAt s.body k ∧ (∀ j < k, ¬LetAt s.body j) ∧ x = .letStatement (s.letStatement k) := by
  rcases eq_or_ne s.stop.kind (.punctuation .semicolon) with hstop | hstop
  · rw [statement?, if_pos hstop, Option.map_eq_some_iff]
    simp only [firstLet?_eq_some_iff, hstop, true_and, and_assoc, eq_comm (b := x)]
  · rw [statement?, if_neg hstop]
    simp only [hstop, false_and, reduceCtorEq]

theorem leadFaults_eq (s : Segment) :
    s.leadFaults = if 0 < s.body.length ∧ (s.token 0).kind ≠ .keyword .letKey then
      [.unsupportedAt (s.token 0)] else [] := by
  obtain ⟨body,stop⟩ := s
  cases body with
  | nil => rfl
  | cons t body =>
    have ht : (⟨t :: body,stop⟩ : Segment).token 0 = t := rfl
    rcases eq_or_ne t.kind (.keyword .letKey) with hl | hl <;> simp [leadFaults, ht, hl]

theorem exists_letLimit (s : Segment) :
    ∃ k ≤ s.body.length, (∀ j < k, ¬LetAt s.body j) ∧ (k < s.body.length → LetAt s.body k) ∧
      (firstLet? s.body).getD s.body.length = k ∧
        ((firstLet? s.body).isSome ↔ k < s.body.length) := by
  cases hk : firstLet? s.body with
  | none =>
    refine ⟨_,Nat.le_refl _,fun j _ => firstLet?_eq_none_iff.mp hk j,fun h => ?_,rfl,?_⟩
    · exact absurd h (Nat.lt_irrefl _)
    · simp
  | some k =>
    obtain ⟨hlet,hleast⟩ := firstLet?_eq_some_iff.mp hk
    exact ⟨k,Nat.le_of_lt hlet.lt_length,hleast,fun _ => hlet,rfl,by simp [hlet.lt_length]⟩

theorem exists_faults_eq (s : Segment) :
    ∃ k ≤ s.body.length, (∀ j < k, ¬LetAt s.body j) ∧ (k < s.body.length → LetAt s.body k) ∧
      s.faults =
        (if 0 < s.body.length ∧ (s.token 0).kind ≠ .keyword .letKey then
          [.unsupportedStatement (s.token 0).kind (s.token 0).span] else []) ++
        ((List.range k).filter (fun i => (s.token i).kind = .keyword .letKey)).map (fun i =>
          if (s.token (i + 1)).kind ≠ .ident then
            .unexpectedToken .ident (s.token (i + 1)).kind (s.token (i + 1)).span
          else .unexpectedToken (.operator .assign) (s.token (i + 2)).kind
            (s.token (i + 2)).span) ++
        (if k < s.body.length ∧ s.stop.kind = .eof then
          [.unexpectedToken (.punctuation .semicolon) .eof s.stop.span] else []) := by
  obtain ⟨k,hle,hbefore,hlet,hk,hsome⟩ := s.exists_letLimit
  refine ⟨k,hle,hbefore,hlet,?_⟩
  have hlets : s.letFault = fun i =>
      if (s.token (i + 1)).kind ≠ .ident then
        .unexpectedToken .ident (s.token (i + 1)).kind (s.token (i + 1)).span
      else .unexpectedToken (.operator .assign) (s.token (i + 2)).kind (s.token (i + 2)).span := by
    funext i
    exact (ite_not _ _ _).symm
  have hend : s.endFaults = if k < s.body.length ∧ s.stop.kind = .eof then
      [.unexpectedToken (.punctuation .semicolon) .eof s.stop.span] else [] := by
    simp only [endFaults, hsome]
    refine if_ctx_congr Iff.rfl (fun h => ?_) (fun _ => rfl)
    rw [Fault.unexpectedAt, h.2]
  rw [faults, leadFaults_eq, letFaults, hk, hlets, hend]
  rfl

theorem statement?_cons (h : ¬LetAt (t :: s.body) 0) : (s.cons t).statement? = s.statement? := by
  simp only [statement?, cons, firstLet?_cons h, Option.map_map]
  rfl

theorem endFaults_cons (h : ¬LetAt (t :: s.body) 0) : (s.cons t).endFaults = s.endFaults := by
  simp only [endFaults, cons, firstLet?_cons h, Option.isSome_map]

theorem letFaults_cons (h : ¬LetAt (t :: s.body) 0) :
    (s.cons t).letFaults =
      (if t.kind = .keyword .letKey then [(s.cons t).letFault 0] else []) ++ s.letFaults := by
  have hlen : (firstLet? (t :: s.body)).getD (t :: s.body).length =
      (firstLet? s.body).getD s.body.length + 1 := by
    rw [firstLet?_cons h]
    cases firstLet? s.body <;> rfl
  have hbody : (s.cons t).body = t :: s.body := rfl
  have hrest : ((List.range ((firstLet? s.body).getD s.body.length)).map Nat.succ).filter
        (fun i => ((s.cons t).token i).kind = .keyword .letKey) =
      ((List.range ((firstLet? s.body).getD s.body.length)).filter
        (fun i => (s.token i).kind = .keyword .letKey)).map Nat.succ := by
    rw [List.filter_map]
    rfl
  rw [letFaults, hbody, hlen, List.range_succ_eq_map, List.filter_cons, hrest]
  rcases eq_or_ne t.kind (.keyword .letKey) with hl | hl
  · simp only [token_cons_zero, hl, decide_true, if_true, List.map_cons, List.map_map]
    rfl
  · simp only [token_cons_zero, hl, decide_false, Bool.false_eq_true, if_false, List.map_map]
    rfl

theorem leadFaults_cons :
    (s.cons t).leadFaults = if t.kind = .keyword .letKey then [] else [.unsupportedAt t] := rfl

theorem letFault_cons_zero :
    (s.cons t).letFault 0 =
      if (s.token 0).kind = .ident then .unexpectedAt (.operator .assign) (s.token 1)
      else .unexpectedAt .ident (s.token 0) := rfl

theorem letFaults_of_first (h : firstLet? s.body = some 0) : s.letFaults = [] := by
  rw [letFaults, h]
  rfl

theorem not_letAt_zero_of_ne_let (h : t.kind ≠ .keyword .letKey) : ¬LetAt (t :: s.body) 0 :=
  fun hl => h (Option.some.inj hl.1)

theorem kind_token_of_body {k : Nat} {c : Kind} (h : s.body[k]?.map Token.kind = some c) :
    (s.token k).kind = c := by
  rw [token, List.getD_eq_getElem?_getD]
  obtain ⟨u,hu,rfl⟩ := Option.map_eq_some_iff.mp h
  rw [hu]
  rfl

theorem not_letAt_zero_of_ne_ident (h : (s.token 0).kind ≠ .ident) : ¬LetAt (t :: s.body) 0 :=
  fun hl => h (kind_token_of_body hl.2.1)

theorem not_letAt_zero_of_ne_assign (h : (s.token 1).kind ≠ .operator .assign) :
    ¬LetAt (t :: s.body) 0 :=
  fun hl => h (kind_token_of_body hl.2.2)

end Segment

def statementsOf (last : Token) (ts : List Token) : List Statement :=
  (segments last ts).filterMap Segment.statement?

-- `atBoundary` tells whether the first token begins its segment; only then can it be a lead fault.
def faultsFrom (atBoundary : Bool) (last : Token) (ts : List Token) : List Fault :=
  (if atBoundary then (Segment.cut last ts).1.leadFaults else []) ++
    (Segment.cut last ts).1.letFaults ++ (Segment.cut last ts).1.endFaults ++
      (Segment.cut last ts).2.flatMap Segment.faults

def faultsOf (last : Token) (ts : List Token) : List Fault :=
  (segments last ts).flatMap Segment.faults

theorem faultsFrom_true (last : Token) (ts : List Token) :
    faultsFrom true last ts = faultsOf last ts := by
  simp only [faultsFrom, faultsOf, segments, List.flatMap_cons, Segment.faults, if_true]

theorem statementsOf_nil (last : Token) : statementsOf last [] = [] := by
  rcases eq_or_ne last.kind (.punctuation .semicolon) with h | h <;>
    simp [statementsOf, segments_nil, Segment.statement?, firstLet?]

theorem faultsFrom_nil (b : Bool) (last : Token) : faultsFrom b last [] = [] := by
  cases b <;> rfl

section
variable {last t : Token} {ts : List Token} (b : Bool)

theorem statementsOf_semicolon (h : t.kind = .punctuation .semicolon) :
    statementsOf last (t :: ts) = statementsOf last ts := by
  rw [statementsOf, segments_semicolon h, List.filterMap_cons]
  simp [Segment.statement?, firstLet?, statementsOf]

theorem faultsFrom_semicolon (h : t.kind = .punctuation .semicolon) :
    faultsFrom b last (t :: ts) = faultsFrom true last ts := by
  rw [faultsFrom_true, faultsFrom, Segment.cut_semicolon h, faultsOf, segments]
  cases b <;> rfl

theorem statementsOf_cons (ht : t.kind ≠ .punctuation .semicolon)
    (h : ¬LetAt (t :: (Segment.cut last ts).1.body) 0) :
    statementsOf last (t :: ts) = statementsOf last ts := by
  simp only [statementsOf, segments, Segment.cut_cons ht, List.filterMap_cons,
    Segment.statement?_cons h]

theorem faultsFrom_cons (ht : t.kind ≠ .punctuation .semicolon)
    (h : ¬LetAt (t :: (Segment.cut last ts).1.body) 0) :
    faultsFrom b last (t :: ts) =
      (if t.kind = .keyword .letKey then [((Segment.cut last ts).1.cons t).letFault 0]
        else if b then [.unsupportedAt t] else []) ++ faultsFrom false last ts := by
  simp only [faultsFrom, Segment.cut_cons ht, Segment.letFaults_cons h, Segment.endFaults_cons h,
    Segment.leadFaults_cons]
  rcases eq_or_ne t.kind (.keyword .letKey) with hl | hl <;> cases b <;> simp [hl]

theorem statementsOf_other (ht : t.kind ≠ .punctuation .semicolon)
    (hl : t.kind ≠ .keyword .letKey) : statementsOf last (t :: ts) = statementsOf last ts :=
  statementsOf_cons ht (Segment.not_letAt_zero_of_ne_let hl)

theorem faultsFrom_other (ht : t.kind ≠ .punctuation .semicolon)
    (hl : t.kind ≠ .keyword .letKey) :
    faultsFrom b last (t :: ts) =
      (if b then [.unsupportedAt t] else []) ++ faultsFrom false last ts := by
  rw [faultsFrom_cons b ht (Segment.not_letAt_zero_of_ne_let hl), if_neg hl]

end

section
variable {last t : Token} {ts : List Token} (b : Bool) (hl : t.kind = .keyword .letKey)
include hl

theorem ne_semicolon_of_let : t.kind ≠ .punctuation .semicolon := by
  rw [hl]
  exact Kind.noConfusion

theorem statementsOf_let_unnamed (hi : (ts.headD last).kind ≠ .ident) :
    statementsOf last (t :: ts) = statementsOf last ts := by
  rw [← Segment.token_cut_zero] at hi
  exact statementsOf_cons (ne_semicolon_of_let hl) (Segment.not_letAt_zero_of_ne_ident hi)

theorem faultsFrom_let_unnamed (hi : (ts.headD last).kind ≠ .ident) :
    faultsFrom b last (t :: ts) = .unexpectedAt .ident (ts.headD last) :: faultsFrom false last ts := by
  rw [← Segment.token_cut_zero] at hi ⊢
  rw [faultsFrom_cons b (ne_semicolon_of_let hl) (Segment.not_letAt_zero_of_ne_ident hi),
    if_pos hl, Segment.letFault_cons_zero, if_neg hi]
  rfl

variable {u : Token} (hu : u.kind = .ident)
include hu

omit hl in
-- The name after an unassigned `let` is no fault of its own: it does not begin the segment.
theorem not_letAt_zero_of_unassigned (ha : (ts.headD last).kind ≠ .operator .assign) :
    ¬LetAt (t :: (Segment.cut last (u :: ts)).1.body) 0 := by
  have hus : u.kind ≠ .punctuation .semicolon := by simp [hu]
  apply Segment.not_letAt_zero_of_ne_assign
  rwa [Segment.cut_cons hus, Segment.token_cons_succ, Segment.token_cut_zero]

theorem statementsOf_let_unassigned (ha : (ts.headD last).kind ≠ .operator .assign) :
    statementsOf last (t :: u :: ts) = statementsOf last ts := by
  have hus : u.kind ≠ .punctuation .semicolon := by simp [hu]
  have hul : u.kind ≠ .keyword .letKey := by simp [hu]
  rw [statementsOf_cons (ne_semicolon_of_let hl) (not_letAt_zero_of_unassigned hu ha),
    statementsOf_other hus hul]

theorem faultsFrom_let_unassigned (ha : (ts.headD last).kind ≠ .operator .assign) :
    faultsFrom b last (t :: u :: ts) =
      .unexpectedAt (.operator .assign) (ts.headD last) :: faultsFrom false last ts := by
  have hus : u.kind ≠ .punctuation .semicolon := by simp [hu]
  have hul : u.kind ≠ .keyword .letKey := by simp [hu]
  rw [faultsFrom_cons b (ne_semicolon_of_let hl) (not_letAt_zero_of_unassigned hu ha), if_pos hl,
    faultsFrom_other false hus hul, Segment.cut_cons hus, Segment.letFault_cons_zero,
    Segment.token_cons_zero, if_pos hu, Segment.token_cons_succ, Segment.token_cut_zero]
  rfl

variable {a : Token} {vs : List Token} (ha : a.kind = .operator .assign)
include ha

theorem firstLet?_let : firstLet? (t :: u :: a :: vs) = some 0 := by
  refine firstLet?_eq_some_iff.mpr ⟨?_,fun j hj => absurd hj (Nat.not_lt_zero j)⟩
  exact ⟨congrArg some hl,congrArg some hu,congrArg some ha⟩

variable (hvs : ∀ v ∈ vs, v.kind ≠ .punctuation .semicolon)
include hvs

theorem ne_semicolon_of_mem_let : ∀ v ∈ t :: u :: a :: vs, v.kind ≠ .punctuation .semicolon := by
  intro v hv
  simp only [List.mem_cons] at hv
  rcases hv with rfl | rfl | rfl | hv
  · simp [hl]
  · simp [hu]
  · simp [ha]
  · exact hvs v hv

theorem statementsOf_let_open (he : last.kind = .eof) :
    statementsOf last (t :: u :: a :: vs) = [] := by
  rw [statementsOf, segments_of_no_semicolon (ne_semicolon_of_mem_let hl hu ha hvs)]
  simp [Segment.statement?, he]

theorem faultsFrom_let_open (he : last.kind = .eof) :
    faultsFrom b last (t :: u :: a :: vs) = [.unexpectedAt (.punctuation .semicolon) last] := by
  obtain ⟨hc,hr⟩ := List.cons.inj
    (segments_of_no_semicolon (ne_semicolon_of_mem_let hl hu ha hvs) last)
  rw [faultsFrom, hc, hr, Segment.letFaults_of_first (firstLet?_let hl hu ha)]
  simp [Segment.leadFaults, Segment.endFaults, firstLet?_let hl hu ha, hl, he]

variable {e : Token} (he : e.kind = .punctuation .semicolon)
include he

theorem segments_let_closed :
    segments last (t :: u :: a :: (vs ++ e :: ts)) =
      ⟨t :: u :: a :: vs,e⟩ :: segments last ts := by
  have hs := segments_append_semicolon he last (t :: u :: a :: vs) ts
  rwa [segments_of_no_semicolon (ne_semicolon_of_mem_let hl hu ha hvs)] at hs

theorem statementsOf_let_closed :
    statementsOf last (t :: u :: a :: (vs ++ e :: ts)) =
      .letStatement ⟨t,.ofToken u,none,⟨t.span.start,e.span.stop⟩⟩ :: statementsOf last ts := by
  rw [statementsOf, segments_let_closed hl hu ha hvs he, List.filterMap_cons]
  simp only [Segment.statement?, firstLet?_let hl hu ha, he, if_true, Option.map_some]
  rfl

theorem faultsFrom_let_closed :
    faultsFrom b last (t :: u :: a :: (vs ++ e :: ts)) = faultsFrom true last ts := by
  have hsegs : segments last (t :: u :: a :: (vs ++ e :: ts)) =
      ⟨t :: u :: a :: vs,e⟩ :: segments last ts := segments_let_closed hl hu ha hvs he
  obtain ⟨hc,hr⟩ := List.cons.inj hsegs
  rw [faultsFrom_true, faultsFrom, hc, hr, Segment.letFaults_of_first (firstLet?_let hl hu ha)]
  simp [Segment.leadFaults, Segment.endFaults, hl, he, faultsOf]

end

end LetLang
