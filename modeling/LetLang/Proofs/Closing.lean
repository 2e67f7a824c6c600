import LetLang.Proofs.Bounds
import LetLang.Proofs.Composition

namespace LetLang

open Text

def Token.semicolonAt (n : Nat) : Token :=
  ⟨.punctuation .semicolon,";",⟨n,n + 1⟩⟩

theorem Token.shift_semicolonAt (n : Nat) : (semicolonAt 0).shift n = semicolonAt n := by
  simp [shift, semicolonAt, Span.shift, Nat.add_comm]

theorem lex_append_semicolon (bytes : List UInt8) :
    lex (bytes ++ [0x3B]) = (Lexer.ofBytes bytes).tokens ++
      [.semicolonAt bytes.length, .eof (bytes.length + 1)] := by
  have hkept : ∀ k : Kind, ¬k.extendedBy 0x3B :=
    fun k => k.not_extendedBy (by decide) (by decide) (by decide)
  have happ := (Lexer.ofBytes bytes).tokens_append [0x3B]
    (fun t _ _ c hc => by cases hc; exact hkept t.kind)
  have hsemi : Lexer.tokens ⟨bytes.length,[0x3B]⟩ = [.semicolonAt bytes.length] := by
    rw [Lexer.tokens_eq_map_shift]
    have hone : (Lexer.ofBytes [0x3B]).tokens = [.semicolonAt 0] := by decide +kernel
    rw [hone, List.map_singleton, Token.shift_semicolonAt]
  have htokens : (Lexer.ofBytes (bytes ++ [0x3B])).tokens =
      (Lexer.ofBytes bytes).tokens ++ [.semicolonAt bytes.length] := by
    rw [← hsemi]
    simpa only [Lexer.ofBytes, Nat.zero_add] using happ
  rw [lex_eq_append_eof, htokens, List.length_append, List.append_assoc]
  rfl

namespace Expectation

def lacking? : Expectation → Option Kind
  | start => none
  | keyword => none
  | name _ => some .ident
  | assign _ _ => some (.operator .assign)
  | stop _ _ => some (.punctuation .semicolon)

variable (e : Expectation)

theorem lacking?_mem {k : Kind} (h : e.lacking? = some k) :
    k ∈ [.punctuation .semicolon, .ident, .operator .assign] := by
  cases e <;> cases h <;> decide

theorem statement?_eof (n : Nat) : e.statement? (.eof n) = none := by
  cases e <;> rfl

theorem fault?_eof (n : Nat) :
    e.fault? (.eof n) = e.lacking?.map fun k => .unexpectedToken k .eof ⟨n,n⟩ := by
  cases e <;> rfl

theorem next_semicolonAt (n : Nat) : e.next (.semicolonAt n) = start := by
  cases e <;> rfl

theorem fault?_semicolonAt (n : Nat) :
    e.fault? (.semicolonAt n) =
      if e.lacking? = some (.punctuation .semicolon) then none
      else e.lacking?.map fun k =>
        .unexpectedToken k (.punctuation .semicolon) ⟨n,n + 1⟩ := by
  cases e <;> rfl

theorem statement?_semicolonAt_eq_none {n : Nat}
    (h : e.lacking? ≠ some (.punctuation .semicolon)) : e.statement? (.semicolonAt n) = none := by
  cases e with
  | start | keyword | name l | assign l n => rfl
  | stop l n => exact absurd rfl h

theorem exists_statement?_semicolonAt {n : Nat}
    (h : e.lacking? = some (.punctuation .semicolon)) :
    ∃ x, e.statement? (.semicolonAt n) = some x ∧ x.span.stop = n + 1 := by
  cases e with
  | start | keyword | name l | assign l n => cases h
  | stop l n => exact ⟨_,rfl,rfl⟩

end Expectation

namespace ParseResult

def Lacks (r : ParseResult) (k : Kind) : Prop :=
  ∃ s, r.faults.getLast? = some (.unexpectedToken k .eof s)

section
variable (bytes : List UInt8)

def foundStatements : List Statement :=
  Expectation.start.read Expectation.statement? (Lexer.ofBytes bytes).tokens

def foundFaults : List Fault :=
  Expectation.start.read Expectation.fault? (Lexer.ofBytes bytes).tokens

def expectation : Expectation :=
  (Lexer.ofBytes bytes).tokens.foldl (fun e t => e.next t) .start

theorem ofBytes_eq_found :
    ofBytes bytes = ⟨⟨foundStatements bytes⟩,foundFaults bytes ++ ((expectation bytes).lacking?.map
      fun k => .unexpectedToken k .eof ⟨bytes.length,bytes.length⟩).toList⟩ := by
  rw [ofBytes_eq_read, lex_eq_append_eof, Expectation.read_append, Expectation.read_append]
  simp only [Expectation.read, Expectation.statement?_eof, Expectation.fault?_eof,
    Option.toList_none, List.append_nil]
  rfl

theorem ofBytes_append_semicolon :
    ofBytes (bytes ++ [0x3B]) =
      ⟨⟨foundStatements bytes ++
          ((expectation bytes).statement? (.semicolonAt bytes.length)).toList⟩,
        foundFaults bytes ++ ((expectation bytes).fault? (.semicolonAt bytes.length)).toList⟩ := by
  rw [ofBytes_eq_read, lex_append_semicolon, Expectation.read_append, Expectation.read_append]
  simp only [Expectation.read, Expectation.next_semicolonAt, Expectation.statement?_eof,
    Expectation.fault?_eof, Expectation.lacking?, Option.map_none, Option.toList_none,
    List.append_nil]
  rfl

variable {bytes}

theorem found_ne_eof_of_mem_foundFaults {f : Fault} (h : f ∈ foundFaults bytes) :
    f.found ≠ .eof := by
  obtain ⟨t,ht,e,hf⟩ := Expectation.exists_of_mem_read _ h
  rw [(Expectation.place_of_fault? hf).1]
  exact Lexer.kind_ne_eof_of_mem ht

theorem lacks_iff {k : Kind} :
    (ofBytes bytes).Lacks k ↔ (expectation bytes).lacking? = some k := by
  rw [Lacks, ofBytes_eq_found]
  cases hl : (expectation bytes).lacking? with
  | none =>
    simp only [Option.map_none, Option.toList_none, List.append_nil, reduceCtorEq, iff_false]
    rintro ⟨s,hs⟩
    exact found_ne_eof_of_mem_foundFaults (List.mem_of_getLast? hs) rfl
  | some c => simp [eq_comm]

theorem dropLast_faults {k : Kind} (h : (ofBytes bytes).Lacks k) :
    (ofBytes bytes).faults.dropLast = foundFaults bytes := by
  rw [ofBytes_eq_found, lacks_iff.mp h, Option.map_some, Option.toList_some, List.dropLast_concat]

theorem filter_faults :
    (ofBytes bytes).faults.filter (fun f => f.found ≠ .eof) = foundFaults bytes := by
  have hkept : (foundFaults bytes).filter (fun f => f.found ≠ .eof) = foundFaults bytes := by
    apply List.filter_eq_self.mpr
    intro f hf
    simpa using found_ne_eof_of_mem_foundFaults hf
  rw [ofBytes_eq_found, List.filter_append, hkept]
  cases (expectation bytes).lacking? <;> simp [Fault.found]

theorem closed_of_lacks_semicolon (h : (ofBytes bytes).Lacks (.punctuation .semicolon)) :
    (ofBytes (bytes ++ [0x3B])).faults = (ofBytes bytes).faults.dropLast ∧
      ∃ x, (ofBytes (bytes ++ [0x3B])).program.statements =
        (ofBytes bytes).program.statements ++ [x] ∧ x.span.stop = bytes.length + 1 := by
  have hlacks := lacks_iff.mp h
  obtain ⟨x,hx,hstop⟩ :=
    Expectation.exists_statement?_semicolonAt (expectation bytes) (n := bytes.length) hlacks
  rw [dropLast_faults h, ofBytes_append_semicolon, Expectation.fault?_semicolonAt, if_pos hlacks,
    Option.toList_none, List.append_nil, ofBytes_eq_found, hx]
  exact ⟨rfl,x,rfl,hstop⟩

theorem closed_of_lacks {k : Kind} (h : (ofBytes bytes).Lacks k)
    (hk : k ≠ .punctuation .semicolon) :
    (ofBytes (bytes ++ [0x3B])).program = (ofBytes bytes).program ∧
      (ofBytes (bytes ++ [0x3B])).faults = (ofBytes bytes).faults.dropLast ++
        [.unexpectedToken k (.punctuation .semicolon) ⟨bytes.length,bytes.length + 1⟩] := by
  have hlacks := lacks_iff.mp h
  have hne : (expectation bytes).lacking? ≠ some (.punctuation .semicolon) := by
    rw [hlacks]
    exact fun heq => hk (Option.some.inj heq)
  rw [dropLast_faults h, ofBytes_append_semicolon, Expectation.fault?_semicolonAt, if_neg hne,
    Expectation.statement?_semicolonAt_eq_none _ hne, Option.toList_none, List.append_nil, hlacks,
    ofBytes_eq_found]
  exact ⟨rfl,rfl⟩

theorem closed_of_not_lacks
    (h : ∀ k ∈ [.punctuation .semicolon, .ident, .operator .assign], ¬(ofBytes bytes).Lacks k) :
    ofBytes (bytes ++ [0x3B]) = ofBytes bytes := by
  have hnone : (expectation bytes).lacking? = none := by
    apply Option.eq_none_iff_forall_ne_some.mpr
    intro k hk
    exact h k ((expectation bytes).lacking?_mem hk) (lacks_iff.mpr hk)
  have hne : (expectation bytes).lacking? ≠ some (.punctuation .semicolon) := by simp [hnone]
  rw [ofBytes_append_semicolon, Expectation.fault?_semicolonAt, if_neg hne,
    Expectation.statement?_semicolonAt_eq_none _ hne, hnone, ofBytes_eq_found, hnone,
    Option.toList_none, List.append_nil]
  rfl

end

theorem parse_append_semicolon (s : String) :
    (parse s).program.statements <+: (parse (s ++ ";")).program.statements ∧
    (parse s).faults.filter (fun f => f.found ≠ .eof) <+: (parse (s ++ ";")).faults ∧
    ((parse s).Lacks (.punctuation .semicolon) →
      (parse (s ++ ";")).faults = (parse s).faults.dropLast ∧
        ∃ x, (parse (s ++ ";")).program.statements = (parse s).program.statements ++ [x] ∧
          x.span.stop = (utf8 s).length + 1) ∧
    (∀ k ∈ [.ident, .operator .assign], (parse s).Lacks k →
      (parse (s ++ ";")).program = (parse s).program ∧
        (parse (s ++ ";")).faults = (parse s).faults.dropLast ++
          [.unexpectedToken k (.punctuation .semicolon)
            ⟨(utf8 s).length,(utf8 s).length + 1⟩]) ∧
    ((∀ k ∈ [.punctuation .semicolon, .ident, .operator .assign], ¬(parse s).Lacks k) →
      parse (s ++ ";") = parse s) := by
  have htext : parse (s ++ ";") = ofBytes (utf8 s ++ [0x3B]) := by
    rw [parse, utf8_append]
    rfl
  rw [htext, parse]
  refine ⟨?_,?_,closed_of_lacks_semicolon,?_,closed_of_not_lacks⟩
  · rw [ofBytes_append_semicolon, ofBytes_eq_found]
    exact List.prefix_append _ _
  · rw [filter_faults, ofBytes_append_semicolon]
    exact List.prefix_append _ _
  · intro k hk h
    apply closed_of_lacks h
    rintro rfl
    simp at hk

theorem parse_append_semicolon_open :
    (parse "@; let é; let a = let b").Lacks (.punctuation .semicolon) ∧
      (∃ x, (parse ("@; let é; let a = let b" ++ ";")).program.statements =
        (parse "@; let é; let a = let b").program.statements ++ [x] ∧ x.span.stop = 25) ∧
      (parse "let a = 1; @ let b").Lacks (.operator .assign) ∧
      (parse ("let a = 1; @ let b" ++ ";")).faults =
        (parse "let a = 1; @ let b").faults.dropLast ++
          [.unexpectedToken (.operator .assign) (.punctuation .semicolon) ⟨18,19⟩] ∧
      (∀ k ∈ [.punctuation .semicolon, .ident, .operator .assign], ¬(parse "let é").Lacks k) ∧
      parse ("let é" ++ ";") = parse "let é" := by
  have hopen : (parse "@; let é; let a = let b").Lacks (.punctuation .semicolon) :=
    ⟨⟨24,24⟩,by decide +kernel⟩
  have hnamed : (parse "let a = 1; @ let b").Lacks (.operator .assign) :=
    ⟨⟨18,18⟩,by decide +kernel⟩
  have hbroken : ∀ k ∈ [.punctuation .semicolon, .ident, .operator .assign],
      ¬(parse "let é").Lacks k := by
    rintro k - ⟨s,hs⟩
    have hlast : (parse "let é").faults.getLast? =
        some (.unexpectedToken .ident .illegal ⟨4,5⟩) := by decide +kernel
    rw [hlast] at hs
    cases hs
  obtain ⟨_,_,hcompleted,_,_⟩ := parse_append_semicolon "@; let é; let a = let b"
  obtain ⟨_,_,_,hmoved,_⟩ := parse_append_semicolon "let a = 1; @ let b"
  obtain ⟨_,_,_,_,hsame⟩ := parse_append_semicolon "let é"
  refine ⟨hopen,(hcompleted hopen).2,hnamed,?_,hbroken,hsame hbroken⟩
  exact (hmoved _ (by decide) hnamed).2

end ParseResult

end LetLang
