import LetLang.Command.Outcome
import LetLang.Proofs.Bounds

namespace LetLang

open Text

theorem Text.fromUTF8?_eq_some_iff {bytes : ByteArray} {text : String} :
    String.fromUTF8? bytes = some text ↔ bytes = text.toByteArray := by
  constructor
  · intro h
    unfold String.fromUTF8? at h
    split at h
    · cases h
      rfl
    · cases h
  · rintro rfl
    simp [String.fromUTF8?, String.fromUTF8, text.isValidUTF8]

theorem SourceFault.maxSize_eq : maxSize = 16777216 := rfl

namespace Found

def Holds (f : Found) (text : String) : Prop :=
  (utf8 text).length ≤ 16777216 ∧ f = .file text.toByteArray

inductive Denies : Found → SourceFault → Prop
  | nowhere (e : PathFault) : Denies (.nowhere e) (.path e)
  | directory : Denies .directory .directory
  | tooLarge (bytes : ByteArray) (h : 16777216 < bytes.size) :
    Denies (.file bytes) (.tooLarge bytes.size)
  | notText (bytes : ByteArray) (hsize : bytes.size ≤ 16777216)
    (h : ∀ text : String, bytes ≠ text.toByteArray) : Denies (.file bytes) (.notText .notUtf8)

def only (name text path : String) : Found :=
  if path = name then .file text.toByteArray else .nowhere .missing

variable {f : Found} {text : String} {e : SourceFault}

theorem source_of_holds (h : f.Holds text) : f.source = .ok text := by
  obtain ⟨hsize,rfl⟩ := h
  have hle : ¬16777216 < text.toByteArray.size := Nat.not_lt.mpr hsize
  rw [source, SourceFault.maxSize_eq, if_neg hle, fromUTF8?_eq_some_iff.mpr rfl]

theorem source_of_denies (h : f.Denies e) : f.source = .error e := by
  cases h with
  | nowhere e => rfl
  | directory => rfl
  | tooLarge bytes h => exact if_pos h
  | notText bytes hsize h =>
    have hnone : String.fromUTF8? bytes = none := by
      cases hbytes : String.fromUTF8? bytes with
      | none => rfl
      | some text => exact absurd (fromUTF8?_eq_some_iff.mp hbytes) (h text)
    rw [source, SourceFault.maxSize_eq, if_neg (Nat.not_lt.mpr hsize), hnone]

theorem holds_or_denies (f : Found) : (∃ text, f.Holds text) ∨ ∃ e, f.Denies e := by
  cases f with
  | nowhere e => exact .inr ⟨_,.nowhere e⟩
  | directory => exact .inr ⟨_,.directory⟩
  | file bytes =>
    rcases Nat.lt_or_ge 16777216 bytes.size with hlt | hge
    · exact .inr ⟨_,.tooLarge bytes hlt⟩
    · by_cases h : ∃ text : String, bytes = text.toByteArray
      · obtain ⟨text,rfl⟩ := h
        exact .inl ⟨text,hge,rfl⟩
      · exact .inr ⟨_,.notText bytes hge (fun text heq => h ⟨text,heq⟩)⟩

end Found

namespace Outcome

structure Fails (o : Outcome) (message : String) : Prop where
  exitCode : o.exitCode = 1
  message : o.failure.map Failure.message = some message

theorem exitCode_eq_zero_iff {o : Outcome} : o.exitCode = 0 ↔ o.failure = none := by
  rw [exitCode]
  cases o.failure <;> simp

theorem fails_of_failure {o : Outcome} {e : Failure} (h : o.failure = some e) :
    o.Fails e.message := by
  constructor
  · rw [exitCode, h]
    rfl
  · rw [h]
    rfl

end Outcome

theorem isClean_parse_iff {text : String} :
    (parse text).isClean ↔ (Lexer.ofText text).tokens.map Token.kind ∈ Grammar.program := by
  rw [ParseResult.isClean, List.isEmpty_iff, Production.kinds_mem_program_iff]
  constructor
  · intro h
    obtain ⟨ps,hps,_⟩ := ParseResult.toExcept_ofBytes_eq_ok_iff.mp
      (ParseResult.toExcept_eq_ok_iff.mpr ⟨h,rfl⟩)
    exact ⟨ps,hps⟩
  · rintro ⟨ps,hps⟩
    exact (ParseResult.toExcept_eq_ok_iff.mp
      (ParseResult.toExcept_ofBytes_eq_ok_iff.mpr ⟨ps,hps,rfl⟩)).1

theorem Token.entry_eof (n : Nat) :
    (eof n).entry = "EOF(\"\") " ++ toString n ++ ".." ++ toString n ++ "\n" := by
  have hrender : (eof n).render ++ " " = "EOF(\"\") " := rfl
  rw [entry, hrender]
  rfl

theorem listing_eq_append (text : String) :
    listing text =
      String.join ((lex (utf8 text)).dropLast.map fun t =>
        t.render ++ " " ++ toString t.span.start ++ ".." ++ toString t.span.stop ++ "\n") ++
      ("EOF(\"\") " ++ toString (utf8 text).length ++ ".." ++ toString (utf8 text).length ++
        "\n") := by
  rw [listing, lex_eq_append_eof, List.dropLast_concat, List.map_append, String.join_append,
    ← Token.entry_eof, List.map_singleton, String.join_cons, String.join_nil, String.append_empty]
  rfl

namespace Outcome

variable {f : Found} {text : String} {e : SourceFault} (draw : Renderer)

theorem ofListing_of_holds (h : f.Holds text) (path : String) :
    ofListing path f = ⟨listing text,none⟩ := by
  rw [ofListing, Found.source_of_holds h]

theorem ofProgram_of_holds (h : f.Holds text) (path : String) :
    ofProgram draw path f = ⟨(parse text).program.dump ++ "\n",
      if (parse text).isClean then none
      else some (.program (reports path text (parse text).faults draw))⟩ := by
  rw [ofProgram, Found.source_of_holds h]

theorem output_ofProgram (h : f.Holds text) (path : String) :
    (ofProgram draw path f).output = (parse text).program.dump ++ "\n" := by
  rw [ofProgram_of_holds draw h]

theorem exitCode_ofProgram_eq_zero_iff (h : f.Holds text) (path : String) :
    (ofProgram draw path f).exitCode = 0 ↔
      (Lexer.ofText text).tokens.map Token.kind ∈ Grammar.program := by
  rw [exitCode_eq_zero_iff, ofProgram_of_holds draw h, ← isClean_parse_iff]
  simp only [ite_eq_left_iff, reduceCtorEq, imp_false, not_not]

theorem fails_ofProgram (h : f.Holds text)
    (hk : (Lexer.ofText text).tokens.map Token.kind ∉ Grammar.program) (path : String) :
    (parse text).faults ≠ [] ∧ (ofProgram draw path f).Fails
      ("\n".intercalate ((parse text).faults.map fun e => draw (e.diagnostic path) text)) := by
  rw [← isClean_parse_iff] at hk
  constructor
  · intro hnil
    rw [ParseResult.isClean, hnil] at hk
    exact hk rfl
  · have hfailure : (ofProgram draw path f).failure =
        some (.program (reports path text (parse text).faults draw)) := by
      rw [ofProgram_of_holds draw h, if_neg hk]
    exact fails_of_failure hfailure

theorem ofListing_of_denies (h : f.Denies e) (path : String) :
    ofListing path f = ⟨"",some (.source path e)⟩ := by
  rw [ofListing, Found.source_of_denies h]

theorem ofProgram_of_denies (h : f.Denies e) (path : String) :
    ofProgram draw path f = ⟨"",some (.source path e)⟩ := by
  rw [ofProgram, Found.source_of_denies h]

end Outcome

theorem ParseResult.ofFault?_of_mem_faults {bytes : List UInt8} {e : Fault}
    (h : e ∈ (ofBytes bytes).faults) (name : String) :
    Diagnostic.ofFault? name e = some (e.diagnostic name) := by
  rw [Diagnostic.ofFault?, Fault.labelled?, (fault_within h).length?_eq]
  rfl

namespace Request

variable {files : String → Found} {p text : String} {r : Request} {e : SourceFault}
  {input : List UInt8} {draw : Renderer}

def Asks (r : Request) (p : String) : Prop :=
  r.lex = some p ∨ r.lex = none ∧ r.parse = some p

theorem outcome_of_lex (hr : r.lex = some p) :
    r.outcome files input draw = .ofListing p (files p) := by
  rw [outcome, hr]

theorem outcome_of_parse (hl : r.lex = none) (hr : r.parse = some p) :
    r.outcome files input draw = .ofProgram draw p (files p) := by
  rw [outcome, hl, hr]

theorem outcome_of_denies (hr : r.Asks p) (h : (files p).Denies e) :
    r.outcome files input draw = ⟨"",some (.source p e)⟩ := by
  rcases hr with hl | ⟨hl,hr⟩
  · rw [outcome_of_lex hl, Outcome.ofListing_of_denies h]
  · rw [outcome_of_parse hl hr, Outcome.ofProgram_of_denies draw h]

theorem exists_denies (hr : r.Asks p) (h : ¬∃ text, (files p).Holds text) :
    ∃ e, (files p).Denies e ∧ (r.outcome files input draw).output = "" ∧
      (r.outcome files input draw).Fails (e.message p) := by
  obtain ⟨e,he⟩ := (Found.holds_or_denies (files p)).resolve_left h
  have ho : r.outcome files input draw = _ := outcome_of_denies hr he
  refine ⟨e,he,?_,?_⟩
  · rw [ho]
  · exact Outcome.fails_of_failure (congrArg Outcome.failure ho)

theorem exitCode_of_lex_eq_zero_iff (hr : r.lex = some p) :
    (r.outcome files input draw).exitCode = 0 ↔ ∃ text, (files p).Holds text := by
  constructor
  · intro hzero
    by_contra hno
    obtain ⟨e,_,_,hfails⟩ := exists_denies (.inl hr) hno
    rw [hfails.exitCode] at hzero
    cases hzero
  · rintro ⟨text,htext⟩
    rw [outcome_of_lex hr, Outcome.ofListing_of_holds htext]
    rfl

theorem outcome_of_file (draw : Renderer) (files : String → Found) (p : String)
    (input : List UInt8) :
    (∀ r : Request, r.lex = some p →
      ((r.outcome files input draw).exitCode = 0 ↔ ∃ text, (files p).Holds text) ∧
      ∀ text, (files p).Holds text → r.outcome files input draw =
        ⟨String.join ((LetLang.lex (utf8 text)).dropLast.map fun t =>
            t.render ++ " " ++ toString t.span.start ++ ".." ++ toString t.span.stop ++ "\n") ++
          ("EOF(\"\") " ++ toString (utf8 text).length ++ ".." ++
            toString (utf8 text).length ++ "\n"),none⟩) ∧
    (∀ r : Request, r.lex = none → r.parse = some p → ∀ text, (files p).Holds text →
      (r.outcome files input draw).output = (LetLang.parse text).program.dump ++ "\n" ∧
      ((r.outcome files input draw).exitCode = 0 ↔
        (Lexer.ofText text).tokens.map Token.kind ∈ Grammar.program) ∧
      ((Lexer.ofText text).tokens.map Token.kind ∉ Grammar.program →
        (LetLang.parse text).faults ≠ [] ∧
        (LetLang.parse text).faults.Pairwise (fun f g => f.span.start < g.span.start) ∧
        (∀ e ∈ (LetLang.parse text).faults,
          Diagnostic.ofFault? p e = some (e.diagnostic p)) ∧
        (r.outcome files input draw).Fails ("\n".intercalate
          ((LetLang.parse text).faults.map fun e => draw (e.diagnostic p) text)))) ∧
    ∀ r : Request, r.Asks p → (¬∃ text, (files p).Holds text) →
      ∃ e, (files p).Denies e ∧ (r.outcome files input draw).output = "" ∧
        (r.outcome files input draw).Fails (e.message p) := by
  refine ⟨?_,?_,fun r hr h => exists_denies hr h⟩
  · intro r hr
    refine ⟨exitCode_of_lex_eq_zero_iff hr,fun text htext => ?_⟩
    rw [outcome_of_lex hr, Outcome.ofListing_of_holds htext, listing_eq_append]
  · intro r hl hr text htext
    rw [outcome_of_parse hl hr]
    refine ⟨Outcome.output_ofProgram draw htext p,
      Outcome.exitCode_ofProgram_eq_zero_iff draw htext p,?_⟩
    intro hk
    obtain ⟨hne,hfails⟩ := Outcome.fails_ofProgram draw htext hk p
    exact ⟨hne,ParseResult.faults_pairwise_start (utf8 text),
      fun e he => ParseResult.ofFault?_of_mem_faults he p,hfails⟩

theorem outcome_of_file_faulty_and_missing :
    ((Found.only "a" "let = 1" "a").Holds "let = 1" ∧
      outcome ⟨some "a",none,none⟩ (Found.only "a" "let = 1") [] .framed =
        ⟨"LET(\"let\") 0..3\nASSIGN(\"=\") 4..5\nINT(\"1\") 6..7\nEOF(\"\") 7..7\n",none⟩) ∧
    ((Lexer.ofText "let = 1").tokens.map Token.kind ∉ Grammar.program ∧
      (outcome ⟨none,some "a",none⟩ (Found.only "a" "let = 1") [] .framed).output =
        "Program \x7b\n    statements: [],\n\x7d\n" ∧
      (outcome ⟨none,some "a",none⟩ (Found.only "a" "let = 1") [] .framed).Fails
        ("interp::parse\n\n  × expected identifier, found '='\n   ╭─[a:1:5]\n" ++
          " 1 │ let = 1\n   ·     ┬\n   ·     ╰── unexpected token\n   ╰────\n")) ∧
    (¬∃ text, (Found.only "a" "let = 1" "b").Holds text) ∧
      (outcome ⟨none,some "b",none⟩ (Found.only "a" "let = 1") [] .framed).output = "" ∧
      (outcome ⟨none,some "b",none⟩ (Found.only "a" "let = 1") [] .framed).Fails
        "Cannot access file 'b': No such file or directory (os error 2)" := by
  have hholds : (Found.only "a" "let = 1" "a").Holds "let = 1" := ⟨by decide,if_pos rfl⟩
  have hmissing : Found.only "a" "let = 1" "b" = .nowhere .missing := if_neg (by decide)
  have hno : ¬∃ text, (Found.only "a" "let = 1" "b").Holds text := by
    rintro ⟨text,_,h⟩
    rw [hmissing] at h
    cases h
  have hkinds : (Lexer.ofText "let = 1").tokens.map Token.kind ∉ Grammar.program := by
    rw [← isClean_parse_iff]
    decide +kernel
  obtain ⟨hlex,hparse,_⟩ := outcome_of_file .framed (Found.only "a" "let = 1") "a" []
  obtain ⟨_,_,hdenied⟩ := outcome_of_file .framed (Found.only "a" "let = 1") "b" []
  have hlisted := (hlex ⟨some "a",none,none⟩ rfl).2 _ hholds
  obtain ⟨houtput,_,hfaulty⟩ := hparse ⟨none,some "a",none⟩ rfl rfl _ hholds
  have hreports := (hfaulty hkinds).2.2.2
  obtain ⟨e,he,hsilent,hfails⟩ := hdenied ⟨none,some "b",none⟩ (.inr ⟨rfl,rfl⟩) hno
  rw [hmissing] at he
  cases he
  refine ⟨⟨hholds,hlisted.trans ?_⟩,⟨hkinds,houtput.trans ?_,?_⟩,hno,hsilent,hfails⟩
  · decide +kernel
  · decide +kernel
  · convert hreports using 1
    decide +kernel

end Request

end LetLang
