import LetLang.Proofs.Arguments
import LetLang.Proofs.Encoding

namespace LetLang

open Argument (equals separate attach ending)
open Text (utf8 decode?_utf8)

namespace Level

variable {α : Type} {l : Level α}

theorem tail_ending (divided : Bool) : l.Tail (ending divided) none := by
  cases divided with
  | false => exact .done
  | true => exact .divided

theorem exists_ending {rest : List OsText} {c : Option α} (h : l.Tail rest c) (hc : c = none) :
    ∃ divided, rest = ending divided := by
  cases h with
  | done => exact ⟨false,rfl⟩
  | divided => exact ⟨true,rfl⟩
  | command => cases hc

end Level

namespace Session

theorem legible_options : OptionRule.Legible options :=
  ⟨by decide,by decide⟩

theorem read_eq_ok_iff {args : List OsText} {m : Matches Empty} :
    level.read args = .ok m ↔ ∃ es divided, OptionRule.Allows options es ∧
      args = es.flatMap Entry.arguments ++ ending divided ∧ m.given = es.map Entry.given := by
  have hnone : m.command = none := by
    cases hc : m.command with
    | none => rfl
    | some c => exact c.elim
  rw [Level.read_eq_ok_iff legible_options]
  constructor
  · rintro ⟨es,rest,hallows,htail,rfl,hgiven⟩
    obtain ⟨divided,rfl⟩ := Level.exists_ending htail hnone
    exact ⟨es,divided,hallows,rfl,hgiven⟩
  · rintro ⟨es,divided,hallows,rfl,hgiven⟩
    exact ⟨es,_,hallows,hnone ▸ Level.tail_ending divided,rfl,hgiven⟩

end Session

namespace Request

theorem legible_options : OptionRule.Legible options :=
  ⟨by decide,by decide⟩

theorem command_eq_ok_iff {name : OsText} {rest : List OsText} {s : Session} :
    command name rest = .ok s ↔ name = utf8 "repl" ∧
      ∃ m, Session.level.read rest = .ok m ∧ s = .ofGiven m.given := by
  rw [command]
  by_cases hr : name = utf8 "repl"
  · rw [if_pos hr]
    cases Session.level.read rest <;> simp [Except.map, hr, eq_comm (a := s)]
  · rw [if_neg hr]
    split <;> simp [hr]

theorem read_eq_ok_iff {args : List OsText} {r : Request OsText} :
    read args = .ok r ↔ ∃ m, level.read args = .ok m ∧ r = ofGiven m.given m.command := by
  rw [read]
  cases level.read args <;> simp [Except.map, eq_comm (a := r)]

theorem read_arguments {l : CommandLine} (h : l.WellFormed) : read l.arguments = .ok l.request := by
  obtain ⟨es,session,divided⟩ := l
  refine read_eq_ok_iff.mpr ⟨⟨es.map Entry.given,_⟩,?_,rfl⟩
  refine (Level.read_eq_ok_iff legible_options).mpr ⟨es,_,h.options,?_,rfl,rfl⟩
  cases session with
  | none => exact Level.tail_ending divided
  | some ss =>
    have hread : Session.level.read (ss.flatMap Entry.arguments ++ ending divided) =
        .ok ⟨ss.map Entry.given,none⟩ :=
      Session.read_eq_ok_iff.mpr ⟨ss,divided,h.session ss rfl,rfl,rfl⟩
    exact .command (Argument.ofText_eq_word_iff.mp rfl)
      (command_eq_ok_iff.mpr ⟨rfl,_,hread,rfl⟩)

theorem exists_arguments_eq {args : List OsText} {r : Request OsText} (h : read args = .ok r) :
    ∃ l : CommandLine, l.WellFormed ∧ l.arguments = args := by
  obtain ⟨⟨given,c⟩,hm,_⟩ := read_eq_ok_iff.mp h
  obtain ⟨es,rest,hallows,htail,rfl,_⟩ := (Level.read_eq_ok_iff legible_options).mp hm
  cases htail with
  | done => exact ⟨⟨es,none,false⟩,⟨hallows,nofun⟩,rfl⟩
  | divided => exact ⟨⟨es,none,true⟩,⟨hallows,nofun⟩,rfl⟩
  | command _ hcommand =>
    obtain ⟨rfl,m,hm,_⟩ := command_eq_ok_iff.mp hcommand
    obtain ⟨ss,divided,hss,rfl,_⟩ := Session.read_eq_ok_iff.mp hm
    refine ⟨⟨es,some ss,divided⟩,⟨hallows,?_⟩,rfl⟩
    rintro _ ⟨⟩
    exact hss

theorem documented_read : Documented read :=
  ⟨fun _ => read_arguments,fun _ _ => exists_arguments_eq⟩

theorem text_utf8 (text : String) : OsText.text (utf8 text) = text := by
  rw [OsText.text, decode?_utf8]
  rfl

theorem exists_utf8_of_mem {l : CommandLine} {args : List String}
    (h : l.arguments = args.map utf8) {e : Entry} (he : e ∈ l.options) :
    ∃ text, e.given.value = utf8 text := by
  have htext : ∀ arg ∈ e.arguments, ∃ text, arg = utf8 text := by
    rintro arg harg
    have hmem : arg ∈ l.arguments := List.mem_append_left _ (List.mem_flatMap_of_mem he harg)
    rw [h] at hmem
    obtain ⟨text,_,rfl⟩ := List.mem_map.mp hmem
    exact ⟨text,rfl⟩
  obtain ⟨g,apart⟩ := e
  cases apart with
  | false =>
    obtain ⟨text,harg⟩ := htext _ List.mem_cons_self
    obtain ⟨_,value,hvalue⟩ := Text.exists_cut_of_utf8_eq (by decide) harg.symm
    exact ⟨value,hvalue.symm⟩
  | true => exact htext g.value (by simp [Entry.arguments_apart])

theorem map_utf8_of_read {args : List String} {r : Request OsText}
    (h : read (args.map utf8) = .ok r) :
    (r.map OsText.text).map utf8 = r := by
  obtain ⟨l,hl,hargs⟩ := documented_read.only _ _ h
  rw [← hargs, documented_read.reads l hl] at h
  cases h
  have htext (name : OsText) :
      ((Given.value? (l.options.map Entry.given) name).map OsText.text).map utf8 =
        Given.value? (l.options.map Entry.given) name := by
    cases hv : Given.value? (l.options.map Entry.given) name with
    | none => rfl
    | some path =>
      obtain ⟨e,he,hgiven⟩ := List.mem_map.mp (Given.mem_of_value?_eq_some hv)
      obtain ⟨text,htext⟩ := exists_utf8_of_mem hargs he
      have hpath : path = utf8 text := by rw [← htext, hgiven]
      rw [hpath, Option.map_some, Option.map_some, text_utf8]
  simp only [map, CommandLine.request, ofGiven, htext]

theorem ofArguments_eq_ok_iff {args : List String} {r : Request} :
    ofArguments args = .ok r ↔ read (args.map utf8) = .ok (r.map utf8) := by
  have hmap (r : Request) : (r.map utf8).map OsText.text = r := by
    obtain ⟨lex,parse,session⟩ := r
    cases lex <;> cases parse <;> simp [map, text_utf8]
  rw [ofArguments]
  cases hread : read (args.map utf8) with
  | error halt => simp [Except.map]
  | ok r' =>
    have hr' := map_utf8_of_read hread
    simp only [Except.map, Except.ok.injEq]
    constructor
    · rintro rfl
      exact hr'.symm
    · rintro rfl
      exact hmap r

theorem roundtrip_of_documented {ε : Type} {reader : List OsText → Except ε (Request OsText)}
    (h : Documented reader) :
    (∀ args r, reader args = .ok r → r.WellFormed ∧ reader r.toArguments = .ok r) ∧
    (∀ r : Request OsText, r.WellFormed →
      reader r.toArguments = .ok r ∧ reader r.toArgumentsPromptFirst = .ok r) ∧
    ∀ before name value after r, equals ∉ name →
      reader (before ++ separate name :: value :: after) = .ok r →
        reader (before ++ attach name value :: after) = .ok r := by
  have hline {r : Request OsText} (hr : r.WellFormed) {spell : Session → List Entry}
      (hspell : ∀ s : Session, s.Spells (spell s)) :
      reader (r.line spell).arguments = .ok r := by
    rw [h.reads _ (wellFormed_line hr hspell), request_line hr hspell]
  have hwritten (r : Request OsText) (hr : r.WellFormed) :
      reader r.toArguments = .ok r ∧ reader r.toArgumentsPromptFirst = .ok r := by
    rw [← arguments_line_mode_prompt, ← arguments_line_prompt_mode]
    exact ⟨hline hr Session.spells_mode_prompt,hline hr Session.spells_prompt_mode⟩
  refine ⟨?_,hwritten,?_⟩
  · intro args r hread
    obtain ⟨l,hl,rfl⟩ := h.only _ _ hread
    rw [h.reads l hl] at hread
    cases hread
    exact ⟨hl.wellFormed_request,(hwritten _ hl.wellFormed_request).1⟩
  · intro before name value after r hname hread
    obtain ⟨l,hl,hargs⟩ := h.only _ _ hread
    obtain ⟨l',hl',hrequest,hargs'⟩ := hl.exists_attached hname hargs
    rw [← hargs', h.reads l' hl', hrequest, ← h.reads l hl, hargs, hread]

theorem roundtrip_of_documented_hyphens :
    Documented read ∧
      read ([utf8 "--parse", utf8 "a=b", utf8 "repl"] ++
          separate (utf8 "prompt") :: utf8 "-" :: [utf8 "--mode", utf8 "ast"]) =
        .ok ⟨none,some (utf8 "a=b"),some ⟨.ast,"-"⟩⟩ ∧
      WellFormed ⟨none,some (utf8 "a=b"),some ⟨.ast,"-"⟩⟩ ∧
      read [utf8 "--parse=a=b", utf8 "repl", utf8 "--mode=ast", utf8 "--prompt=-"] =
        .ok ⟨none,some (utf8 "a=b"),some ⟨.ast,"-"⟩⟩ ∧
      equals ∉ utf8 "prompt" ∧
      read ([utf8 "--parse", utf8 "a=b", utf8 "repl"] ++
          attach (utf8 "prompt") (utf8 "-") :: [utf8 "--mode", utf8 "ast"]) =
        .ok ⟨none,some (utf8 "a=b"),some ⟨.ast,"-"⟩⟩ ∧
      WellFormed ⟨some [0xFF],none,some ⟨.tokens,"--mode=ast"⟩⟩ ∧
      read [utf8 "--lex=" ++ [0xFF], utf8 "repl", utf8 "--prompt=--mode=ast",
          utf8 "--mode=tokens"] =
        .ok ⟨some [0xFF],none,some ⟨.tokens,"--mode=ast"⟩⟩ := by
  have hread : read ([utf8 "--parse", utf8 "a=b", utf8 "repl"] ++
      separate (utf8 "prompt") :: utf8 "-" :: [utf8 "--mode", utf8 "ast"]) =
        .ok ⟨none,some (utf8 "a=b"),some ⟨.ast,"-"⟩⟩ := by decide +kernel
  have hname : equals ∉ utf8 "prompt" := by decide
  have hsession : WellFormed ⟨some [0xFF],none,some ⟨.tokens,"--mode=ast"⟩⟩ :=
    ⟨by decide,by decide,by decide⟩
  obtain ⟨haccepted,hwritten,hattached⟩ := roundtrip_of_documented documented_read
  obtain ⟨hformed,hagain⟩ := haccepted _ _ hread
  exact ⟨documented_read,hread,hformed,hagain,hname,hattached _ _ _ _ _ hname hread,hsession,
    (hwritten _ hsession).2⟩

end Request

end LetLang
