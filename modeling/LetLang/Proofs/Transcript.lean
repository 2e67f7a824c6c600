import LetLang.Session
import LetLang.Proofs.Encoding
import LetLang.Proofs.Stream

namespace LetLang

open Text

def Mode.printed (draw : Renderer) : Mode → String → String
  | .tokens, text => String.join ((lex (utf8 text)).dropLast.map fun t => t.render ++ "\n")
  | .ast, text =>
    (parse text).program.dump ++ "\n" ++
      if (parse text).faults = [] then ""
      else
        "\n".intercalate ((parse text).faults.map fun e => draw (e.diagnostic "<repl>") text) ++
          "\n"

namespace Session

theorem inputLinesOnto_eq (acc : List (List UInt8)) (line bs : List UInt8) :
    inputLinesOnto acc line bs = acc.reverse ++ inputLinesOnto [] line bs := by
  induction bs generalizing acc line with
  | nil => cases line <;> simp [inputLinesOnto]
  | cons b bs ih =>
    simp only [inputLinesOnto]
    split
    · rw [ih (_ :: acc), ih [_]]
      simp
    · exact ih acc _

theorem inputLinesOnto_append {body : List UInt8} (h : 0x0A ∉ body) (line rest : List UInt8) :
    inputLinesOnto [] line (body ++ rest) = inputLinesOnto [] (body.reverse ++ line) rest := by
  induction body generalizing line with
  | nil => rfl
  | cons b body ih =>
    rw [List.mem_cons, not_or] at h
    rw [List.cons_append, inputLinesOnto, if_neg (Ne.symm h.1), ih h.2]
    simp

theorem inputLines_of_no_feed {body : List UInt8} (h : 0x0A ∉ body) :
    inputLines body = if body = [] then [] else [body] := by
  have hl := inputLinesOnto_append h [] []
  rw [List.append_nil, List.append_nil] at hl
  rw [inputLines, hl, inputLinesOnto]
  cases body <;> simp

theorem inputLines_feed {body : List UInt8} (h : 0x0A ∉ body) (rest : List UInt8) :
    inputLines (body ++ 0x0A :: rest) = (body ++ [0x0A]) :: inputLines rest := by
  rw [inputLines, inputLinesOnto_append h, inputLinesOnto, if_pos rfl, inputLinesOnto_eq]
  simp [inputLines]

@[elab_as_elim]
theorem line_induction {motive : List UInt8 → Prop} (input : List UInt8)
    (rest : ∀ body, 0x0A ∉ body → motive body)
    (line : ∀ body more, 0x0A ∉ body → motive more → motive (body ++ 0x0A :: more)) :
    motive input := by
  induction hn : input.length using Nat.strongRecOn generalizing input with
  | ind n ih =>
    by_cases h : 0x0A ∈ input
    · obtain ⟨body,more,rfl,hbody⟩ := List.eq_append_cons_of_mem h
      rw [List.length_append, List.length_cons] at hn
      exact line body more hbody (ih _ (by omega) more rfl)
    · exact rest input h

structure Cut (input : List UInt8) (lines : List (List UInt8)) : Prop where
  whole : lines.flatten = input
  nonempty : ∀ l ∈ lines, l ≠ []
  feedless : ∀ l ∈ lines, 0x0A ∉ l.dropLast
  ended : ∀ l ∈ lines.dropLast, l.getLast? = some 0x0A

namespace Cut

variable {input more body : List UInt8} {lines : List (List UInt8)}

theorem cons (h : 0x0A ∉ body) (hc : Cut more lines) :
    Cut (body ++ 0x0A :: more) ((body ++ [0x0A]) :: lines) := by
  refine ⟨?_,?_,?_,?_⟩
  · rw [List.flatten_cons, hc.whole, List.append_assoc]
    rfl
  · exact List.forall_mem_cons.mpr ⟨by simp,hc.nonempty⟩
  · refine List.forall_mem_cons.mpr ⟨?_,hc.feedless⟩
    rwa [List.dropLast_concat]
  · cases lines with
    | nil => simp
    | cons l ls => exact List.forall_mem_cons.mpr ⟨List.getLast?_concat,hc.ended⟩

theorem tail {l : List UInt8} (hc : Cut input (l :: lines)) : Cut lines.flatten lines := by
  refine ⟨rfl,(List.forall_mem_cons.mp hc.nonempty).2,(List.forall_mem_cons.mp hc.feedless).2,?_⟩
  intro m hm
  cases lines with
  | nil => cases hm
  | cons k ks => exact hc.ended m (List.mem_cons_of_mem l hm)

theorem eq_inputLines (hc : Cut input lines) : lines = inputLines input := by
  induction lines generalizing input with
  | nil =>
    rw [← hc.whole]
    rfl
  | cons l ls ih =>
    have hrest := ih hc.tail
    rw [← hc.whole, List.flatten_cons]
    obtain ⟨body,b,rfl⟩ : ∃ body b, l = body ++ [b] :=
      ⟨_,_,(List.dropLast_concat_getLast (hc.nonempty l List.mem_cons_self)).symm⟩
    have hbody := hc.feedless _ List.mem_cons_self
    rw [List.dropLast_concat] at hbody
    by_cases hb : b = 0x0A
    · rw [hb, List.append_assoc, List.singleton_append, inputLines_feed hbody, ← hrest]
    · have hls : ls = [] := by
        cases ls with
        | nil => rfl
        | cons m ms =>
          have hend := hc.ended _ List.mem_cons_self
          rw [List.getLast?_concat] at hend
          exact absurd (Option.some.inj hend) hb
      have hl : 0x0A ∉ body ++ [b] := by simp [hbody, Ne.symm hb]
      rw [hls, List.flatten_nil, List.append_nil, inputLines_of_no_feed hl, if_neg (by simp)]

end Cut

theorem cut_inputLines (input : List UInt8) : Cut input (inputLines input) := by
  induction input using line_induction with
  | rest body h =>
    rw [inputLines_of_no_feed h]
    by_cases hnil : body = []
    · rw [if_pos hnil, hnil]
      exact ⟨rfl,by simp,by simp,by simp⟩
    · rw [if_neg hnil]
      have hlast : 0x0A ∉ body.dropLast := fun hm => h (List.dropLast_subset body hm)
      exact ⟨by simp,by simpa using hnil,by simpa using hlast,by simp⟩
  | line body more h ih =>
    rw [inputLines_feed h]
    exact ih.cons h

theorem cut_iff {input : List UInt8} {lines : List (List UInt8)} :
    Cut input lines ↔ lines = inputLines input :=
  ⟨Cut.eq_inputLines,fun h => h ▸ cut_inputLines input⟩

-- No character but the line feed holds a line feed, so lines of text are texts.
theorem exists_texts_iff (input : List UInt8) :
    (∃ t, utf8 t = input) ↔ ∃ ts : List String, inputLines input = ts.map utf8 := by
  induction input using line_induction with
  | rest body h =>
    rw [inputLines_of_no_feed h]
    by_cases hnil : body = []
    · rw [if_pos hnil, hnil]
      exact ⟨fun _ => ⟨[],rfl⟩,fun _ => ⟨"",rfl⟩⟩
    · rw [if_neg hnil]
      constructor
      · rintro ⟨t,rfl⟩
        exact ⟨[t],rfl⟩
      · rintro ⟨ts,hts⟩
        obtain ⟨t,_,hbody⟩ := List.map_eq_singleton_iff.mp hts.symm
        exact ⟨t,hbody⟩
  | line body more h ih =>
    rw [inputLines_feed h]
    constructor
    · rintro ⟨t,ht⟩
      obtain ⟨⟨u,hu⟩,hmore⟩ := exists_cut_of_utf8_eq (by decide) ht
      obtain ⟨us,hus⟩ := ih.mp hmore
      exact ⟨u :: us,by rw [List.map_cons, hu, hus]⟩
    · rintro ⟨ts,hts⟩
      obtain ⟨u,us,rfl,hu,hus⟩ := List.map_eq_cons_iff.mp hts.symm
      obtain ⟨v,rfl⟩ := ih.mpr ⟨us,hus.symm⟩
      exact ⟨u ++ v,by rw [utf8_append, hu, List.append_assoc]; rfl⟩

theorem inputLines_append {as : List UInt8} (h : as = [] ∨ as.getLast? = some 0x0A)
    (bs : List UInt8) : inputLines (as ++ bs) = inputLines as ++ inputLines bs := by
  induction as using line_induction with
  | rest body hbody =>
    rcases h with rfl | h
    · rfl
    · exact absurd (List.mem_of_getLast? h) hbody
  | line body more hbody ih =>
    have hmore : more = [] ∨ more.getLast? = some 0x0A := by
      rcases h with h | h
      · simp at h
      · cases more with
        | nil => exact .inl rfl
        | cons b more => exact .inr (by simpa [List.getLast?_append, List.getLast?_cons] using h)
    rw [List.append_assoc, List.cons_append, inputLines_feed hbody, inputLines_feed hbody,
      ih hmore]
    rfl

theorem exists_eq_trimLine_append (line : String) :
    ∃ ending, line = trimLine line ++ ending ∧ (∀ c ∈ ending.toList, isLineEnd c) ∧
      ∀ c ∈ (trimLine line).toList.getLast?, ¬isLineEnd c := by
  refine ⟨.ofList (line.toList.reverse.takeWhile isLineEnd).reverse,?_,?_,?_⟩
  · rw [trimLine, ← String.ofList_append, ← List.reverse_append, List.takeWhile_append_dropWhile,
      List.reverse_reverse, String.ofList_toList]
  · intro c hc
    rw [String.toList_ofList, List.mem_reverse] at hc
    exact List.all_eq_true.mp List.all_takeWhile c hc
  · intro c hc
    rw [trimLine, String.toList_ofList, List.getLast?_reverse] at hc
    exact not_of_mem_head?_dropWhile hc

variable (s : Session) (draw : Renderer)

theorem reply_eq_printed (line : String) :
    s.reply draw line = s.mode.printed draw (trimLine line) := by
  rw [reply]
  cases s.mode with
  | tokens =>
    rw [Mode.printed, Lexer.lex_eq, List.dropLast_concat]
    rfl
  | ast =>
    simp only [programText, ParseResult.isClean, List.isEmpty_iff]
    rfl

theorem respond_utf8 {text : String} (h : utf8 text ≠ []) :
    s.respond draw (utf8 text) = .reply (s.mode.printed draw (trimLine text)) := by
  rw [respond, if_neg (by simpa using h), decode?_utf8]
  exact congrArg Response.reply (s.reply_eq_printed draw text)

theorem respond_of_bad {bad : List UInt8} (h : decode? bad = none) :
    s.respond draw bad = .stop "" (some .notUtf8) := by
  have hne : ¬bad.isEmpty := by
    intro hnil
    rw [List.isEmpty_iff.mp hnil] at h
    exact absurd h (by decide +kernel)
  rw [respond, if_neg hne, h]

theorem answer_texts (output : String) {texts : List String} (h : ∀ t ∈ texts, utf8 t ≠ [])
    (rest : List (List UInt8)) :
    s.answer draw output (texts.map utf8 ++ rest) =
      s.answer draw (output ++
        String.join (texts.map fun t => s.prompt ++ s.mode.printed draw (trimLine t))) rest := by
  induction texts generalizing output with
  | nil => simp
  | cons t ts ih =>
    obtain ⟨ht,hts⟩ := List.forall_mem_cons.mp h
    rw [List.map_cons, List.cons_append, answer, s.respond_utf8 draw ht, Response.transcript,
      ih _ hts, List.map_cons, String.join_cons]
    simp only [String.append_assoc]

variable {s draw} {input bad : List UInt8} {texts : List String} {rest : List (List UInt8)}

theorem utf8_ne_nil_of_mem (h : inputLines input = texts.map utf8 ++ rest) :
    ∀ t ∈ texts, utf8 t ≠ [] := by
  intro t ht
  apply (cut_inputLines input).nonempty
  rw [h]
  exact List.mem_append_left rest (List.mem_map_of_mem ht)

theorem run_of_texts (h : inputLines input = texts.map utf8) :
    s.run input draw =
      ⟨String.join (texts.map fun t => s.prompt ++ s.mode.printed draw (trimLine t)) ++
        s.prompt ++ "\n",none⟩ := by
  rw [← List.append_nil (texts.map utf8)] at h
  rw [run, h, s.answer_texts draw "" (utf8_ne_nil_of_mem h), String.empty_append]
  rfl

theorem run_of_bad (h : inputLines input = texts.map utf8 ++ bad :: rest)
    (hbad : decode? bad = none) :
    s.run input draw =
      ⟨String.join (texts.map fun t => s.prompt ++ s.mode.printed draw (trimLine t)) ++
        s.prompt,some .notUtf8⟩ := by
  rw [run, h, s.answer_texts draw "" (utf8_ne_nil_of_mem h), String.empty_append, answer,
    s.respond_of_bad draw hbad, Response.transcript, String.append_empty]

theorem exists_texts_or_bad (lines : List (List UInt8)) :
    ∃ texts : List String, lines = texts.map utf8 ∨
      ∃ bad rest, lines = texts.map utf8 ++ bad :: rest ∧ decode? bad = none := by
  induction lines with
  | nil => exact ⟨[],.inl rfl⟩
  | cons l ls ih =>
    cases hl : decode? l with
    | none => exact ⟨[],.inr ⟨l,ls,rfl,hl⟩⟩
    | some t =>
      obtain rfl := decode?_eq_some_iff.mp hl
      obtain ⟨ts,rfl | ⟨bad,rest,rfl,hbad⟩⟩ := ih
      · exact ⟨t :: ts,.inl rfl⟩
      · exact ⟨t :: ts,.inr ⟨bad,rest,rfl,hbad⟩⟩

theorem isSome_decode?_iff : (decode? input).isSome ↔ ∃ t, utf8 t = input := by
  rw [Option.isSome_iff_exists]
  simp only [decode?_eq_some_iff, @eq_comm _ input]

theorem failure_run_eq_none_iff :
    (s.run input draw).failure = none ↔ (decode? input).isSome := by
  rw [isSome_decode?_iff, exists_texts_iff]
  constructor
  · intro hf
    obtain ⟨ts,hts | ⟨bad,rest,hlines,hbad⟩⟩ := exists_texts_or_bad (inputLines input)
    · exact ⟨ts,hts⟩
    · rw [run_of_bad hlines hbad] at hf
      cases hf
  · rintro ⟨ts,hts⟩
    rw [run_of_texts hts]

theorem run_append {more : List UInt8} (hend : input = [] ∨ input.getLast? = some 0x0A)
    (hi : (decode? input).isSome) (hm : (decode? more).isSome) :
    ∃ output, (s.run input draw).output = output ++ s.prompt ++ "\n" ∧
      (s.run (input ++ more) draw).output = output ++ (s.run more draw).output := by
  obtain ⟨ts,hts⟩ := (exists_texts_iff input).mp (isSome_decode?_iff.mp hi)
  obtain ⟨us,hus⟩ := (exists_texts_iff more).mp (isSome_decode?_iff.mp hm)
  have hboth : inputLines (input ++ more) = (ts ++ us).map utf8 := by
    rw [inputLines_append hend, hts, hus, List.map_append]
  refine ⟨_,by rw [run_of_texts hts],?_⟩
  rw [run_of_texts hboth, run_of_texts hus, List.map_append, String.join_append]
  simp only [String.append_assoc]

theorem run_eq_printed (draw : Renderer) (s : Session) (input : List UInt8) :
    (∀ lines, Cut input lines ↔ lines = inputLines input) ∧
      (∀ line, ∃ ending, line = trimLine line ++ ending ∧ (∀ c ∈ ending.toList, isLineEnd c) ∧
        ∀ c ∈ (trimLine line).toList.getLast?, ¬isLineEnd c) ∧
      (∀ texts : List String, inputLines input = texts.map utf8 →
        s.run input draw =
          ⟨String.join (texts.map fun t => s.prompt ++ s.mode.printed draw (trimLine t)) ++
            s.prompt ++ "\n",none⟩) ∧
      (∀ (texts : List String) bad rest,
        inputLines input = texts.map utf8 ++ bad :: rest → decode? bad = none →
        s.run input draw =
          ⟨String.join (texts.map fun t => s.prompt ++ s.mode.printed draw (trimLine t)) ++
            s.prompt,some .notUtf8⟩) ∧
      ((s.run input draw).failure = none ↔ (decode? input).isSome) ∧
      ∀ more, input = [] ∨ input.getLast? = some 0x0A →
        (decode? input).isSome → (decode? more).isSome →
          ∃ output, (s.run input draw).output = output ++ s.prompt ++ "\n" ∧
            (s.run (input ++ more) draw).output = output ++ (s.run more draw).output :=
  ⟨fun _ => cut_iff,exists_eq_trimLine_append,fun _ => run_of_texts,fun _ _ _ => run_of_bad,
    failure_run_eq_none_iff,fun _ => run_append⟩

theorem run_eq_printed_broken_off :
    (inputLines (utf8 "é\r\n\n;") = ["é\r\n", "\n", ";"].map utf8 ∧
      run ⟨.ast,"> "⟩ (utf8 "é\r\n\n;") .framed =
        ⟨"> Program \x7b\n    statements: [],\n\x7d\ninterp::parse\n\n" ++
          "  × cannot start a statement with illegal character\n   ╭─[<repl>:1:1]\n" ++
          " 1 │ é\n   · ┬\n   · ╰── statement starts here\n   ╰────\n" ++
          "  help: only `let` statements are parsed so far\n\n" ++
          "> Program \x7b\n    statements: [],\n\x7d\n" ++
          "> Program \x7b\n    statements: [],\n\x7d\n> \n",
          none⟩) ∧
    (inputLines (utf8 "x=\n" ++ [0xFF, 0x0A, 0x79]) =
        ["x=\n"].map utf8 ++ [0xFF, 0x0A] :: [[0x79]] ∧
      decode? [0xFF, 0x0A] = none ∧
        standard.run (utf8 "x=\n" ++ [0xFF, 0x0A, 0x79]) .framed =
          ⟨">> IDENT(\"x\")\nASSIGN(\"=\")\n>> ",some .notUtf8⟩) ∧
    ((utf8 "x\n").getLast? = some 0x0A ∧ (decode? (utf8 "x\n")).isSome ∧
      (decode? (utf8 "y")).isSome ∧
        ∃ output, (standard.run (utf8 "x\n") .framed).output = output ++ standard.prompt ++ "\n" ∧
          (standard.run (utf8 "x\n" ++ utf8 "y") .framed).output =
            output ++ (standard.run (utf8 "y") .framed).output) := by
  have hlines : inputLines (utf8 "é\r\n\n;") = ["é\r\n", "\n", ";"].map utf8 := by decide +kernel
  have hcut : inputLines (utf8 "x=\n" ++ [0xFF, 0x0A, 0x79]) =
      ["x=\n"].map utf8 ++ [0xFF, 0x0A] :: [[0x79]] := by decide +kernel
  have hbad : decode? [0xFF, 0x0A] = none := by decide +kernel
  have hend : (utf8 "x\n").getLast? = some 0x0A := by decide +kernel
  have hx : (decode? (utf8 "x\n")).isSome := by rw [decode?_utf8]; rfl
  have hy : (decode? (utf8 "y")).isSome := by rw [decode?_utf8]; rfl
  have htexts := (run_eq_printed .framed ⟨.ast,"> "⟩ (utf8 "é\r\n\n;")).2.2.1 _ hlines
  have hbroken := (run_eq_printed .framed standard _).2.2.2.1 _ _ _ hcut hbad
  obtain ⟨_,_,_,_,_,happ⟩ := run_eq_printed .framed standard (utf8 "x\n")
  refine ⟨⟨hlines,htexts.trans ?_⟩,⟨hcut,hbad,hbroken.trans ?_⟩,hend,hx,hy,
    happ _ (.inr hend) hx hy⟩
  · decide +kernel
  · decide +kernel

end Session

end LetLang
