import LetLang.Report.Diagnostic
import LetLang.Proofs.Expectation
import LetLang.Proofs.Grammar
import LetLang.Proofs.Join

namespace LetLang

namespace Span

def Within (n : Nat) (s : Span) : Prop :=
  s.start ≤ s.stop ∧ s.stop ≤ n

variable {n : Nat} {s t : Span}

theorem within_zero : zero.Within n := ⟨Nat.le_refl 0,Nat.zero_le n⟩

theorem Within.merge (hs : s.Within n) (ht : t.Within n) : (s.merge t).Within n := by
  obtain ⟨hs1,hs2⟩ := hs
  obtain ⟨ht1,ht2⟩ := ht
  simp only [Within, Span.merge]
  omega

theorem Within.length?_eq (h : s.Within n) : s.length? = some (s.stop - s.start) :=
  if_pos h.1

end Span

def Token.Before (t u : Token) : Prop :=
  t.span.start < t.span.stop ∧ t.span.stop ≤ u.span.start

theorem lex_eq_append_eof (bytes : List UInt8) :
    lex bytes = (Lexer.ofBytes bytes).tokens ++ [.eof bytes.length] := by
  rw [Lexer.lex_eq, Lexer.last_ofBytes]

theorem lex_pairwise_before (bytes : List UInt8) : (lex bytes).Pairwise Token.Before := by
  have htok := Lexer.tokenization_ofBytes bytes
  rw [lex_eq_append_eof]
  refine List.pairwise_append.mpr ⟨?_,List.pairwise_singleton _ _,?_⟩
  · apply htok.ordered.imp_of_mem
    intro t u ht _ hle
    exact ⟨(htok.lexed t ht).nonempty,hle⟩
  · intro t ht u hu
    obtain rfl := List.mem_singleton.mp hu
    exact ⟨(htok.lexed t ht).nonempty,(htok.lexed t ht).inside⟩

section
variable {bytes : List UInt8} {t : Token}

theorem within_of_mem_lex (h : t ∈ lex bytes) : t.span.Within bytes.length := by
  rw [lex_eq_append_eof] at h
  rcases List.mem_append.mp h with h | h
  · have hlexed := Lexer.lexed_of_mem h
    exact ⟨Nat.le_of_lt hlexed.nonempty,hlexed.inside⟩
  · obtain rfl := List.mem_singleton.mp h
    exact ⟨Nat.le_refl _,Nat.le_refl _⟩

theorem eq_eof_of_mem_lex (h : t ∈ lex bytes) (he : t.kind = .eof) :
    t = .eof bytes.length := by
  rw [lex_eq_append_eof] at h
  rcases List.mem_append.mp h with h | h
  · exact absurd he (Lexer.kind_ne_eof_of_mem h)
  · exact List.mem_singleton.mp h

theorem start_eq_stop_iff (h : t ∈ lex bytes) : t.span.start = t.span.stop ↔ t.kind = .eof := by
  constructor
  · intro heq
    rw [lex_eq_append_eof] at h
    rcases List.mem_append.mp h with h | h
    · have hne := (Lexer.lexed_of_mem h).nonempty
      omega
    · rw [List.mem_singleton.mp h]
      rfl
  · intro he
    rw [eq_eof_of_mem_lex h he]
    rfl

end

namespace Expectation

theorem map_read_sublist {α β : Type} {out : Token → Expectation → Option α} {f : α → β}
    {g : Token → β} (h : ∀ t e x, out t e = some x → f x = g t) (e : Expectation)
    (ts : List Token) : ((read out e ts).map f).Sublist (ts.map g) := by
  induction ts generalizing e with
  | nil => exact List.Sublist.refl []
  | cons t ts ih =>
    rw [read, List.map_append, List.map_cons]
    cases hout : out t e with
    | none => exact (ih (e.next t)).cons (g t)
    | some x =>
      rw [Option.toList_some, List.map_singleton, h t e x hout]
      exact (ih (e.next t)).cons_cons (g t)

end Expectation

def Expression.spans : Expression → List Span
  | identifier i => [i.span]

def Statement.spans : Statement → List Span
  | letStatement s =>
    s.span :: s.token.span :: s.name.span :: (s.value.map Expression.spans).getD []
  | returnStatement s => s.span :: s.token.span :: (s.value.map Expression.spans).getD []

theorem Statement.span_mem_spans (x : Statement) : x.span ∈ x.spans := by
  cases x <;> exact List.mem_cons_self

def Program.spans (p : Program) : List Span :=
  p.span :: p.statements.flatMap Statement.spans

namespace ParseResult

variable {bytes : List UInt8}

theorem statement_within {x : Statement} (h : x ∈ (ofBytes bytes).program.statements) :
    ∀ s ∈ x.spans, s.Within bytes.length := by
  obtain ⟨us,b,vs,hlex,rfl⟩ := exists_binding h
  have hmem : ∀ t ∈ b.tokens, t ∈ lex bytes := by
    intro t ht
    rw [hlex]
    exact List.mem_append_left vs (List.mem_append_right us ht)
  have hkeyword := within_of_mem_lex (hmem b.keyword b.keyword_mem)
  have hname := within_of_mem_lex (hmem b.name b.name_mem)
  have hstop := within_of_mem_lex (hmem b.stop b.stop_mem)
  have horder : b.keyword.Before b.stop := by
    have hall := lex_pairwise_before bytes
    rw [hlex] at hall
    have hb := (List.pairwise_append.mp (List.pairwise_append.mp hall).1).2.1
    exact (List.pairwise_cons.mp hb).1 b.stop (by simp)
  have hwhole : Span.Within bytes.length ⟨b.keyword.span.start,b.stop.span.stop⟩ := by
    refine ⟨?_,hstop.2⟩
    exact Nat.le_trans (Nat.le_of_lt horder.1) (Nat.le_trans horder.2 hstop.1)
  exact List.forall_mem_cons.mpr ⟨hwhole,List.forall_mem_cons.mpr ⟨hkeyword,
    List.forall_mem_cons.mpr ⟨hname,by simp [Binding.statement]⟩⟩⟩

theorem program_span_within : (ofBytes bytes).program.span.Within bytes.length := by
  have hspan {x : Statement} (hx : x ∈ (ofBytes bytes).program.statements) :
      x.span.Within bytes.length :=
    statement_within hx x.span x.span_mem_spans
  rw [Program.span]
  split
  · rename_i first last hfirst hlast
    exact (hspan (List.mem_of_mem_head? hfirst)).merge (hspan (List.mem_of_getLast? hlast))
  · exact Span.within_zero

theorem map_faults_sublist (bytes : List UInt8) :
    ((ofBytes bytes).faults.map fun f => (f.found, f.span)).Sublist
      ((lex bytes).map fun t => (t.kind, t.span)) := by
  rw [ofBytes_eq_read]
  apply Expectation.map_read_sublist
  intro t e f hf
  obtain ⟨hk,hs⟩ := Expectation.place_of_fault? hf
  rw [hk, hs]

theorem exists_token_of_mem_faults {f : Fault} (h : f ∈ (ofBytes bytes).faults) :
    ∃ t ∈ lex bytes, t.kind = f.found ∧ t.span = f.span := by
  have hmem := (map_faults_sublist bytes).subset (List.mem_map_of_mem h)
  obtain ⟨t,ht,heq⟩ := List.mem_map.mp hmem
  exact ⟨t,ht,Prod.mk.inj heq⟩

theorem fault_within {f : Fault} (h : f ∈ (ofBytes bytes).faults) :
    f.span.Within bytes.length := by
  obtain ⟨t,ht,_,hs⟩ := exists_token_of_mem_faults h
  rw [← hs]
  exact within_of_mem_lex ht

theorem faults_pairwise_start (bytes : List UInt8) :
    (ofBytes bytes).faults.Pairwise (fun f g => f.span.start < g.span.start) := by
  have hlex : ((lex bytes).map fun t => (t.kind, t.span)).Pairwise
      (fun p q => p.2.start < q.2.start) := by
    apply List.pairwise_map.mpr
    apply (lex_pairwise_before bytes).imp
    intro t u h
    exact Nat.lt_of_lt_of_le h.1 h.2
  have hfaults := hlex.sublist (map_faults_sublist bytes)
  rwa [List.pairwise_map] at hfaults

theorem span_of_found_eof {f : Fault} (h : f ∈ (ofBytes bytes).faults) (he : f.found = .eof) :
    f.span = ⟨bytes.length,bytes.length⟩ := by
  obtain ⟨t,ht,hk,hs⟩ := exists_token_of_mem_faults h
  rw [← hs, eq_eof_of_mem_lex ht (hk.trans he)]
  rfl

-- A fault after one at the end would have to lie beyond the end.
theorem found_ne_eof_of_mem_dropLast {f : Fault} (h : f ∈ (ofBytes bytes).faults.dropLast) :
    f.found ≠ .eof := by
  intro he
  have hmem := List.dropLast_subset _ h
  have hne := List.ne_nil_of_mem hmem
  have hall := faults_pairwise_start bytes
  rw [← List.dropLast_concat_getLast hne] at hall
  have hlt := (List.pairwise_append.mp hall).2.2 f h _ (List.mem_singleton_self _)
  have hlast := fault_within (List.getLast_mem hne)
  have hend := congrArg Span.start (span_of_found_eof hmem he)
  obtain ⟨h1,h2⟩ := hlast
  simp only at hend
  omega

theorem exists_diagnostic {f : Fault} (h : f ∈ (ofBytes bytes).faults) (name : String) :
    ∃ d, Diagnostic.ofFault? name f = some d ∧ d.offset = f.span.start ∧
      d.offset + d.length = f.span.stop ∧ (d.length = 0 ↔ f.found = .eof) := by
  have hwithin := fault_within h
  obtain ⟨t,ht,hk,hs⟩ := exists_token_of_mem_faults h
  have hzero := start_eq_stop_iff ht
  rw [hk, hs] at hzero
  rw [Diagnostic.ofFault?, Fault.labelled?, hwithin.length?_eq]
  refine ⟨_,rfl,rfl,?_,?_⟩
  · exact Nat.add_sub_of_le hwithin.1
  · rw [← hzero]
    have hle := hwithin.1
    simp only [Fault.diagnostic]
    omega

theorem within_of_mem_places {s : Span}
    (h : s ∈ (lex bytes).map Token.span ++ (ofBytes bytes).program.spans ++
      (ofBytes bytes).faults.map Fault.span) : s.Within bytes.length := by
  rw [List.mem_append, List.mem_append] at h
  rcases h with (h | h) | h
  · obtain ⟨t,ht,rfl⟩ := List.mem_map.mp h
    exact within_of_mem_lex ht
  · rcases List.mem_cons.mp h with rfl | h
    · exact program_span_within
    · obtain ⟨x,hx,hs⟩ := List.mem_flatMap.mp h
      exact statement_within hx s hs
  · obtain ⟨f,hf,rfl⟩ := List.mem_map.mp h
    exact fault_within hf

theorem spans_within (bytes : List UInt8) :
    (∀ s ∈ (lex bytes).map Token.span ++ (ofBytes bytes).program.spans ++
        (ofBytes bytes).faults.map Fault.span,
      s.Within bytes.length ∧ s.length? = some (s.stop - s.start)) ∧
    (∀ f ∈ (ofBytes bytes).faults, ∀ name, ∃ d, Diagnostic.ofFault? name f = some d ∧
      d.offset = f.span.start ∧ d.offset + d.length = f.span.stop ∧
        d.offset + d.length ≤ bytes.length ∧ (d.length = 0 ↔ f.found = .eof)) ∧
    (ofBytes bytes).faults.Pairwise (fun f g => f.span.start < g.span.start) ∧
    (∀ f ∈ (ofBytes bytes).faults, ∃ t ∈ lex bytes, t.kind = f.found ∧ t.span = f.span) ∧
    (∀ f ∈ (ofBytes bytes).faults, f.found = .eof →
      f.span = ⟨bytes.length,bytes.length⟩) ∧
    ∀ f ∈ (ofBytes bytes).faults.dropLast, f.found ≠ .eof := by
  refine ⟨?_,?_,faults_pairwise_start bytes,fun _ => exists_token_of_mem_faults,
    fun _ => span_of_found_eof,fun _ => found_ne_eof_of_mem_dropLast⟩
  · intro s hs
    have hwithin := within_of_mem_places hs
    exact ⟨hwithin,hwithin.length?_eq⟩
  · intro f hf name
    obtain ⟨d,hd,hoffset,hstop,hzero⟩ := exists_diagnostic hf name
    refine ⟨d,hd,hoffset,hstop,?_,hzero⟩
    rw [hstop]
    exact (fault_within hf).2

theorem spans_within_open_let :
    Fault.unexpectedToken (.punctuation .semicolon) .eof ⟨13,13⟩ ∈
        (ofBytes (Text.utf8 "é; let x = 1")).faults ∧
      (∃ d, Diagnostic.ofFault? "<repl>"
          (.unexpectedToken (.punctuation .semicolon) .eof ⟨13,13⟩) = some d ∧
        d.offset = 13 ∧ d.offset + d.length = 13 ∧
          d.offset + d.length ≤ (Text.utf8 "é; let x = 1").length ∧
            (d.length = 0 ↔ Kind.eof = .eof)) ∧
      Fault.unsupportedStatement .illegal ⟨0,1⟩ ∈
        (ofBytes (Text.utf8 "é; let x = 1")).faults.dropLast ∧ Kind.illegal ≠ .eof := by
  have hlast : Fault.unexpectedToken (.punctuation .semicolon) .eof ⟨13,13⟩ ∈
      (ofBytes (Text.utf8 "é; let x = 1")).faults := by decide +kernel
  have hfirst : Fault.unsupportedStatement .illegal ⟨0,1⟩ ∈
      (ofBytes (Text.utf8 "é; let x = 1")).faults.dropLast := by decide +kernel
  obtain ⟨_,hdiagnostic,_,_,_,hfound⟩ := spans_within (Text.utf8 "é; let x = 1")
  exact ⟨hlast,hdiagnostic _ hlast "<repl>",hfirst,hfound _ hfirst⟩

end ParseResult

end LetLang
