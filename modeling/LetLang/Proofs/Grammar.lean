import Mathlib.Computability.Language
import LetLang.Proofs.Recognition

namespace LetLang

open scoped Computability

namespace Grammar

def stray : Language Kind :=
  {[.punctuation .semicolon]}

def value : Language Kind :=
  ({w | ∃ k, k ≠ .punctuation .semicolon ∧ w = [k]} : Set (List Kind))

def binding : Language Kind :=
  {[.keyword .letKey]} * {[.ident]} * {[.operator .assign]} * value∗ * {[.punctuation .semicolon]}

def program : Language Kind :=
  (stray + binding)∗

theorem mem_value_kstar_iff {w : List Kind} :
    w ∈ value∗ ↔ ∀ k ∈ w, k ≠ .punctuation .semicolon := by
  constructor
  · intro h k hk
    obtain ⟨ws,rfl,hws⟩ := Language.mem_kstar.mp h
    obtain ⟨v,hv,hkv⟩ := List.mem_flatten.mp hk
    obtain ⟨c,hc,rfl⟩ := hws v hv
    obtain rfl := List.mem_singleton.mp hkv
    exact hc
  · intro h
    refine Language.mem_kstar.mpr ⟨w.map (fun k => [k]),?_,?_⟩
    · rw [← List.flatMap_def, List.flatMap_singleton']
    · intro v hv
      obtain ⟨k,hk,rfl⟩ := List.mem_map.mp hv
      exact ⟨k,h k hk,rfl⟩

theorem mem_binding_iff {w : List Kind} :
    w ∈ binding ↔ ∃ vs, (∀ k ∈ vs, k ≠ .punctuation .semicolon) ∧
      w = .keyword .letKey :: .ident :: .operator .assign :: (vs ++ [.punctuation .semicolon]) := by
  constructor
  · intro h
    obtain ⟨_,⟨_,⟨_,⟨_,hl,_,hn,rfl⟩,_,ha,rfl⟩,vs,hvs,rfl⟩,_,he,rfl⟩ := h
    rw [Set.mem_singleton_iff.mp hl, Set.mem_singleton_iff.mp hn, Set.mem_singleton_iff.mp ha,
      Set.mem_singleton_iff.mp he]
    exact ⟨vs,mem_value_kstar_iff.mp hvs,rfl⟩
  · rintro ⟨vs,hvs,rfl⟩
    have hhead := Language.append_mem_mul (Set.mem_singleton [Kind.keyword .letKey])
      (Set.mem_singleton [Kind.ident])
    have hsign := Language.append_mem_mul hhead (Set.mem_singleton [Kind.operator .assign])
    have hvalue := Language.append_mem_mul hsign (mem_value_kstar_iff.mpr hvs)
    exact Language.append_mem_mul hvalue (Set.mem_singleton [Kind.punctuation .semicolon])

end Grammar

structure Binding where
  keyword : Token
  name : Token
  assign : Token
  value : List Token
  stop : Token
  keyword_kind : keyword.kind = .keyword .letKey
  name_kind : name.kind = .ident
  assign_kind : assign.kind = .operator .assign
  value_kind : ∀ v ∈ value, v.kind ≠ .punctuation .semicolon
  stop_kind : stop.kind = .punctuation .semicolon

namespace Binding

def tokens (b : Binding) : List Token :=
  b.keyword :: b.name :: b.assign :: (b.value ++ [b.stop])

theorem keyword_mem (b : Binding) : b.keyword ∈ b.tokens := by simp [tokens]

theorem name_mem (b : Binding) : b.name ∈ b.tokens := by simp [tokens]

theorem stop_mem (b : Binding) : b.stop ∈ b.tokens := by simp [tokens]

theorem getLast?_tokens (b : Binding) : b.tokens.getLast? = some b.stop := by
  simp [tokens, List.getLast?_cons, List.getLast?_append]

def statement (b : Binding) : LetStatement :=
  ⟨b.keyword,.ofToken b.name,none,⟨b.keyword.span.start,b.stop.span.stop⟩⟩

end Binding

inductive Production where
  | stray (stop : Token) (h : stop.kind = .punctuation .semicolon)
  | binding (b : Binding)

namespace Production

def tokens : Production → List Token
  | stray e _ => [e]
  | binding b => b.tokens

def statement? : Production → Option Statement
  | stray _ _ => none
  | binding b => some (.letStatement b.statement)

theorem kinds_mem (p : Production) :
    p.tokens.map Token.kind ∈ Grammar.stray + Grammar.binding := by
  cases p with
  | stray e h =>
    refine .inl ?_
    rw [tokens, List.map_singleton, h]
    exact Set.mem_singleton _
  | binding b =>
    refine .inr (Grammar.mem_binding_iff.mpr ⟨b.value.map Token.kind,?_,?_⟩)
    · intro k hk
      obtain ⟨v,hv,rfl⟩ := List.mem_map.mp hk
      exact b.value_kind v hv
    · simp [tokens, Binding.tokens, b.keyword_kind, b.name_kind, b.assign_kind, b.stop_kind]

theorem exists_tokens_eq {ts : List Token}
    (h : ts.map Token.kind ∈ Grammar.stray + Grammar.binding) : ∃ p : Production, p.tokens = ts := by
  rcases h with h | h
  · obtain ⟨e,rfl,he⟩ := List.map_eq_singleton_iff.mp (Set.mem_singleton_iff.mp h)
    exact ⟨.stray e he,rfl⟩
  · obtain ⟨ks,hks,h1⟩ := Grammar.mem_binding_iff.mp h
    obtain ⟨l,_,rfl,hl,h2⟩ := List.map_eq_cons_iff.mp h1
    obtain ⟨n,_,rfl,hn,h3⟩ := List.map_eq_cons_iff.mp h2
    obtain ⟨a,_,rfl,ha,h4⟩ := List.map_eq_cons_iff.mp h3
    obtain ⟨vs,_,rfl,rfl,h5⟩ := List.map_eq_append_iff.mp h4
    obtain ⟨e,rfl,he⟩ := List.map_eq_singleton_iff.mp h5
    have hvs : ∀ v ∈ vs, v.kind ≠ .punctuation .semicolon :=
      fun v hv => hks _ (List.mem_map_of_mem hv)
    exact ⟨.binding ⟨l,n,a,vs,e,hl,hn,ha,hvs,he⟩,rfl⟩

theorem kinds_mem_program_iff {ts : List Token} :
    ts.map Token.kind ∈ Grammar.program ↔ ∃ ps : List Production, ps.flatMap tokens = ts := by
  constructor
  · intro h
    obtain ⟨ws,heq,hws⟩ := Language.mem_kstar.mp h
    induction ws generalizing ts with
    | nil => exact ⟨[],(List.map_eq_nil_iff.mp heq).symm⟩
    | cons w ws ih =>
      obtain ⟨us,vs,rfl,rfl,hvs⟩ := List.map_eq_append_iff.mp heq
      obtain ⟨hw,hrest⟩ := List.forall_mem_cons.mp hws
      obtain ⟨p,rfl⟩ := exists_tokens_eq hw
      obtain ⟨ps,rfl⟩ := ih (Language.mem_kstar.mpr ⟨ws,hvs,hrest⟩) hvs hrest
      exact ⟨p :: ps,rfl⟩
  · rintro ⟨ps,rfl⟩
    refine Language.mem_kstar.mpr ⟨ps.map (fun p => p.tokens.map Token.kind),?_,?_⟩
    · rw [List.map_flatMap, List.flatMap_def]
    · intro w hw
      obtain ⟨p,_,rfl⟩ := List.mem_map.mp hw
      exact kinds_mem p

theorem exists_cut (ts : List Token) :
    ∃ vs us, vs ++ us = ts ∧ (∀ v ∈ vs, v.kind ≠ .punctuation .semicolon) ∧
      ∀ e ∈ us.head?, e.kind = .punctuation .semicolon := by
  induction ts with
  | nil => exact ⟨[],[],rfl,by simp,by simp⟩
  | cons t ts ih =>
    by_cases h : t.kind = .punctuation .semicolon
    · exact ⟨[],t :: ts,rfl,by simp,by simp [h]⟩
    · obtain ⟨vs,us,rfl,hvs,hus⟩ := ih
      exact ⟨t :: vs,us,rfl,List.forall_mem_cons.mpr ⟨h,hvs⟩,hus⟩

theorem yield_flatMap (last : Token) (ps : List Production) :
    statementsOf last (ps.flatMap tokens) = ps.filterMap statement? ∧
      faultsFrom true last (ps.flatMap tokens) = [] := by
  induction ps with
  | nil => exact ⟨statementsOf_nil last,faultsFrom_nil true last⟩
  | cons p ps ih =>
    cases p with
    | stray e he =>
      rw [List.flatMap_cons, List.filterMap_cons, ← ih.1, ← ih.2]
      exact ⟨statementsOf_semicolon he,faultsFrom_semicolon true he⟩
    | binding b =>
      have htokens : (Production.binding b :: ps).flatMap tokens =
          b.keyword :: b.name :: b.assign :: (b.value ++ b.stop :: ps.flatMap tokens) := by
        rw [List.flatMap_cons, tokens, Binding.tokens]
        simp
      rw [htokens, List.filterMap_cons, ← ih.1, ← ih.2]
      exact ⟨statementsOf_let_closed b.keyword_kind b.name_kind b.assign_kind b.value_kind
          b.stop_kind,
        faultsFrom_let_closed true b.keyword_kind b.name_kind b.assign_kind b.value_kind
          b.stop_kind⟩

variable {last : Token}

theorem exists_binding_of_faultless {l : Token} {ts : List Token}
    (hl : l.kind = .keyword .letKey) (he : last.kind = .eof)
    (h : faultsFrom true last (l :: ts) = []) :
    ∃ (b : Binding) (us : List Token), b.tokens ++ us = l :: ts ∧ faultsFrom true last us = [] := by
  have hn : (ts.headD last).kind = .ident := by
    by_contra hn
    rw [faultsFrom_let_unnamed true hl hn] at h
    cases h
  obtain _ | ⟨n,ts⟩ := ts
  · rw [List.headD_nil, he] at hn
    cases hn
  rw [List.headD_cons] at hn
  have ha : (ts.headD last).kind = .operator .assign := by
    by_contra ha
    rw [faultsFrom_let_unassigned true hl hn ha] at h
    cases h
  obtain _ | ⟨a,ts⟩ := ts
  · rw [List.headD_nil, he] at ha
    cases ha
  rw [List.headD_cons] at ha
  obtain ⟨vs,rest,rfl,hvs,hrest⟩ := exists_cut ts
  cases rest with
  | nil =>
    rw [List.append_nil, faultsFrom_let_open true hl hn ha hvs he] at h
    cases h
  | cons e us =>
    have hk := hrest e rfl
    rw [faultsFrom_let_closed true hl hn ha hvs hk] at h
    exact ⟨⟨l,n,a,vs,e,hl,hn,ha,hvs,hk⟩,us,by simp [Binding.tokens],h⟩

theorem exists_of_faultless {ts : List Token} (he : last.kind = .eof)
    (h : faultsFrom true last ts = []) : ∃ ps : List Production, ps.flatMap tokens = ts := by
  induction hn : ts.length using Nat.strongRecOn generalizing ts with
  | ind n ih =>
    cases ts with
    | nil => exact ⟨[],rfl⟩
    | cons t ts =>
      rw [List.length_cons] at hn
      rcases eq_or_ne t.kind (.punctuation .semicolon) with hs | hs
      · rw [faultsFrom_semicolon true hs] at h
        obtain ⟨ps,rfl⟩ := ih _ (by omega) h rfl
        exact ⟨.stray t hs :: ps,rfl⟩
      rcases eq_or_ne t.kind (.keyword .letKey) with hl | hl
      · obtain ⟨b,us,heq,hus⟩ := exists_binding_of_faultless hl he h
        have hlen := congrArg List.length heq
        simp only [Binding.tokens, List.length_append, List.length_cons] at hlen
        obtain ⟨ps,rfl⟩ := ih _ (by omega) hus rfl
        exact ⟨.binding b :: ps,heq⟩
      · rw [faultsFrom_other true hs hl] at h
        cases h

end Production

theorem ParseResult.toExcept_eq_ok_iff {r : ParseResult} {p : Program} :
    r.toExcept = .ok p ↔ r.faults = [] ∧ p = r.program := by
  rw [toExcept, isClean]
  cases r.faults with
  | nil => simp [eq_comm]
  | cons f fs => simp

theorem ParseResult.toExcept_ofBytes_eq_ok_iff {bytes : List UInt8} {p : Program} :
    (ofBytes bytes).toExcept = .ok p ↔
      ∃ ps : List Production, ps.flatMap Production.tokens = (Lexer.ofBytes bytes).tokens ∧
        p = ⟨ps.filterMap Production.statement?⟩ := by
  rw [toExcept_eq_ok_iff, ofBytes_eq, ← faultsFrom_true]
  constructor
  · rintro ⟨hf,rfl⟩
    obtain ⟨ps,hps⟩ := Production.exists_of_faultless rfl hf
    refine ⟨ps,hps,?_⟩
    rw [← hps, (Production.yield_flatMap _ ps).1]
  · rintro ⟨ps,hps,rfl⟩
    rw [← hps]
    obtain ⟨hst,hf⟩ := Production.yield_flatMap (Lexer.ofBytes bytes).last ps
    exact ⟨hf,congrArg Program.mk hst.symm⟩

theorem LetAt.exists_cons {ts : List Token} {k : Nat} (h : LetAt ts k) :
    ∃ l n a vs, ts.drop k = l :: n :: a :: vs ∧ l.kind = .keyword .letKey ∧ n.kind = .ident ∧
      a.kind = .operator .assign := by
  have hat (i : Nat) : ts[k + i]? = (ts.drop k)[i]? := List.getElem?_drop.symm
  obtain ⟨hl,hn,ha⟩ := h
  rw [← Nat.add_zero k, hat] at hl
  rw [hat] at hn ha
  cases hd : ts.drop k with
  | nil => simp [hd] at hl
  | cons l us =>
    cases us with
    | nil => simp [hd] at hn
    | cons n us =>
      cases us with
      | nil => simp [hd] at ha
      | cons a vs =>
        simp only [hd] at hl hn ha
        exact ⟨l,n,a,vs,rfl,Option.some.inj hl,Option.some.inj hn,Option.some.inj ha⟩

theorem Segment.token_add (s : Segment) (k i : Nat) :
    s.token (k + i) = (s.body.drop k).getD i s.stop := by
  rw [token, List.getD_eq_getElem?_getD, List.getD_eq_getElem?_getD, List.getElem?_drop]

theorem Segment.exists_binding_of_statement? {s : Segment} {x : Statement}
    (hs : ∀ t ∈ s.body, t.kind ≠ .punctuation .semicolon) (h : s.statement? = some x) :
    ∃ (us : List Token) (b : Binding),
      s.body ++ [s.stop] = us ++ b.tokens ∧ x = .letStatement b.statement := by
  obtain ⟨hstop,k,hlet,_,rfl⟩ := statement?_eq_some_iff.mp h
  obtain ⟨l,n,a,vs,hdrop,hl,hn,ha⟩ := hlet.exists_cons
  have hvs : ∀ v ∈ vs, v.kind ≠ .punctuation .semicolon := by
    intro v hv
    apply hs v
    apply List.mem_of_mem_drop (i := k)
    simp [hdrop, hv]
  refine ⟨s.body.take k,⟨l,n,a,vs,s.stop,hl,hn,ha,hvs,hstop⟩,?_,?_⟩
  · calc s.body ++ [s.stop] = s.body.take k ++ s.body.drop k ++ [s.stop] := by
          rw [List.take_append_drop]
      _ = _ := by
          rw [hdrop, List.append_assoc]
          rfl
  · have hkeyword : s.token k = l := (s.token_add k 0).trans (by rw [hdrop]; rfl)
    have hname : s.token (k + 1) = n := (s.token_add k 1).trans (by rw [hdrop]; rfl)
    rw [Segment.letStatement, hkeyword, hname]
    rfl

theorem exists_binding_of_mem_statementsOf {last : Token} {ts : List Token} {x : Statement}
    (h : x ∈ statementsOf last ts) :
    ∃ (us : List Token) (b : Binding) (vs : List Token),
      ts ++ [last] = us ++ b.tokens ++ vs ∧ x = .letStatement b.statement := by
  obtain ⟨s,hs,hx⟩ := List.mem_filterMap.mp h
  obtain ⟨us,b,hb,rfl⟩ :=
    Segment.exists_binding_of_statement? (fun t ht => ne_semicolon_of_mem_body hs ht) hx
  obtain ⟨as,bs,hsplit⟩ := List.append_of_mem hs
  refine ⟨as.flatMap (fun s => s.body ++ [s.stop]) ++ us,b,
    bs.flatMap (fun s => s.body ++ [s.stop]),?_,rfl⟩
  rw [← segments_flatten, hsplit, List.flatMap_append, List.flatMap_cons, hb]
  simp only [List.append_assoc]

theorem ParseResult.exists_binding {bytes : List UInt8} {x : Statement}
    (h : x ∈ (ofBytes bytes).program.statements) :
    ∃ (us : List Token) (b : Binding) (vs : List Token),
      lex bytes = us ++ b.tokens ++ vs ∧ x = .letStatement b.statement := by
  rw [ofBytes_eq] at h
  rw [Lexer.lex_eq]
  exact exists_binding_of_mem_statementsOf h

end LetLang
