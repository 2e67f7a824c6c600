import LetLang.Proofs.Composition
import LetLang.Proofs.Transcript

namespace LetLang

open Text

namespace Lexer

variable {as bs : List UInt8}

theorem tokens_of_all_blank (h : ∀ b ∈ bs, isBlank b) (n : Nat) : tokens ⟨n,bs⟩ = [] := by
  induction bs generalizing n with
  | nil => exact tokens_nil n
  | cons b bs ih =>
    rw [tokens_blank (h b List.mem_cons_self)]
    exact ih (fun c hc => h c (List.mem_cons_of_mem b hc)) (n + 1)

theorem tokens_append_of_blank_head (h : ∀ b ∈ bs.head?, isBlank b) (n : Nat) :
    tokens ⟨n,as ++ bs⟩ = tokens ⟨n,as⟩ ++ tokens ⟨n + as.length,bs⟩ :=
  tokens_append ⟨n,as⟩ bs (fun t _ _ b hb => t.kind.not_extendedBy_blank (h b hb))

theorem tokens_append_all_blank (h : ∀ b ∈ bs, isBlank b) (n : Nat) :
    tokens ⟨n,as ++ bs⟩ = tokens ⟨n,as⟩ := by
  have hhead : ∀ b ∈ bs.head?, isBlank b := fun b hb => h b (List.mem_of_mem_head? hb)
  rw [tokens_append_of_blank_head hhead, tokens_of_all_blank h, List.append_nil]

theorem tokens_append_blank_cons {b : UInt8} (h : isBlank b) (n : Nat) :
    tokens ⟨n,as ++ b :: bs⟩ = tokens ⟨n,as⟩ ++ tokens ⟨n + (as ++ [b]).length,bs⟩ := by
  have hhead : ∀ c ∈ (b :: bs).head?, isBlank c := by
    rintro c ⟨⟩
    exact h
  rw [tokens_append_of_blank_head hhead, tokens_blank h, List.length_append, List.length_singleton,
    Nat.add_assoc]

end Lexer

namespace Session

def textLines (source : String) : List String :=
  (inputLines (utf8 source)).filterMap decode?

theorem map_utf8_textLines (source : String) :
    inputLines (utf8 source) = (textLines source).map utf8 := by
  obtain ⟨ts,hts⟩ := (exists_texts_iff (utf8 source)).mp ⟨source,rfl⟩
  have hdecode : decode? ∘ utf8 = some := funext decode?_utf8
  rw [textLines, hts, List.filterMap_map, hdecode, List.filterMap_some]

def placed (n : Nat) : List String → List (Nat × String)
  | [] => []
  | l :: ls => (n, l) :: placed (n + (utf8 l).length) ls

theorem map_snd_placed (n : Nat) (lines : List String) : (placed n lines).map Prod.snd = lines := by
  induction lines generalizing n with
  | nil => rfl
  | cons l ls ih => rw [placed, List.map_cons, ih]

theorem isBlank_of_isLineEnd {s : String} (h : ∀ c ∈ s.toList, isLineEnd c) :
    ∀ b ∈ utf8 s, isBlank b := by
  have hchar : ∀ c ∈ s.toList, c = '\n' ∨ c = '\r' := by simpa [isLineEnd] using h
  have hascii : ∀ c ∈ s.toList, c.toNat < 0x80 := by
    intro c hc
    rcases hchar c hc with rfl | rfl <;> decide
  rw [utf8_of_ascii hascii]
  intro b hb
  obtain ⟨c,hc,rfl⟩ := List.mem_map.mp hb
  rcases hchar c hc with rfl | rfl <;> decide

theorem tokens_trimLine (line : String) (n : Nat) :
    Lexer.tokens ⟨n,utf8 (trimLine line)⟩ = Lexer.tokens ⟨n,utf8 line⟩ := by
  obtain ⟨ending,hline,hend,_⟩ := exists_eq_trimLine_append line
  have happ : utf8 line = utf8 (trimLine line) ++ utf8 ending := by
    rw [← utf8_append, ← hline]
  rw [happ, Lexer.tokens_append_all_blank (isBlank_of_isLineEnd hend)]

-- By induction on the lines, from any place: only the last can lack its line feed.
theorem tokens_of_lines {input : List UInt8} {lines : List String}
    (h : inputLines input = lines.map utf8) (n : Nat) :
    Lexer.tokens ⟨n,input⟩ = (placed n lines).flatMap
      fun l => (Lexer.ofText (trimLine l.2)).tokens.map (Token.shift l.1) := by
  induction input using line_induction generalizing lines n with
  | rest body hbody =>
    rw [inputLines_of_no_feed hbody] at h
    by_cases hnil : body = []
    · rw [if_pos hnil] at h
      rw [List.map_eq_nil_iff.mp h.symm, hnil]
      exact Lexer.tokens_nil n
    · rw [if_neg hnil] at h
      obtain ⟨l,rfl,rfl⟩ := List.map_eq_singleton_iff.mp h.symm
      rw [← tokens_trimLine, Lexer.tokens_eq_map_shift]
      exact (List.append_nil _).symm
  | line body more hbody ih =>
    rw [inputLines_feed hbody] at h
    obtain ⟨l,ls,rfl,hl,hls⟩ := List.map_eq_cons_iff.mp h.symm
    have hfeed : isBlank 0x0A := by decide
    have hbody : Lexer.tokens ⟨n,body⟩ = Lexer.tokens ⟨n,utf8 l⟩ := by
      rw [hl, Lexer.tokens_append_all_blank (List.forall_mem_singleton.mpr hfeed)]
    rw [placed, List.flatMap_cons, Lexer.tokens_append_blank_cons hfeed, hbody, ← tokens_trimLine,
      Lexer.tokens_eq_map_shift, ← hl, ih hls.symm]
    rfl

theorem tokens_ofText_eq_flatMap (source : String) :
    (Lexer.ofText source).tokens = (placed 0 (textLines source)).flatMap
      fun l => (Lexer.ofText (trimLine l.2)).tokens.map (Token.shift l.1) :=
  tokens_of_lines (map_utf8_textLines source) 0

end Session

section
variable {α : Type} {xs : List α} {f : α → List Token}
  (h : ∀ x ∈ xs, ∀ t ∈ (f x).getLast?, t.kind = .punctuation .semicolon) (ends : α → Token)
  (last : Token)
include h

theorem statementsOf_flatMap :
    statementsOf last (xs.flatMap f) = xs.flatMap fun x => statementsOf (ends x) (f x) := by
  induction xs with
  | nil => exact statementsOf_nil last
  | cons x xs ih =>
    obtain ⟨hx,hxs⟩ := List.forall_mem_cons.mp h
    rw [List.flatMap_cons, statementsOf_append hx last (ends x), ih hxs, List.flatMap_cons]

theorem faultsOf_flatMap :
    faultsOf last (xs.flatMap f) = xs.flatMap fun x => faultsOf (ends x) (f x) := by
  induction xs with
  | nil =>
    rw [List.flatMap_nil, ← faultsFrom_true, faultsFrom_nil]
    rfl
  | cons x xs ih =>
    obtain ⟨hx,hxs⟩ := List.forall_mem_cons.mp h
    rw [List.flatMap_cons, faultsOf_append hx last (ends x), ih hxs, List.flatMap_cons]

end

namespace Session

theorem semicolon_of_trimLine {line : String}
    (h : ∀ t ∈ (Lexer.ofText line).tokens.getLast?, t.kind = .punctuation .semicolon) (n : Nat) :
    ∀ t ∈ ((Lexer.ofText (trimLine line)).tokens.map (Token.shift n)).getLast?,
      t.kind = .punctuation .semicolon := by
  have htrim : (Lexer.ofText (trimLine line)).tokens = (Lexer.ofText line).tokens :=
    tokens_trimLine line 0
  intro t ht
  rw [List.getLast?_map, htrim] at ht
  obtain ⟨u,hu,rfl⟩ := Option.map_eq_some_iff.mp ht
  exact h u hu

-- Where a trimmed line ends differs from where the text ends, but no yield of a closed line tells.
theorem parse_eq_flatMap_lines (source : String)
    (h : ∀ line ∈ textLines source, ∀ t ∈ (Lexer.ofText line).tokens.getLast?,
      t.kind = .punctuation .semicolon) :
    parse source =
        ⟨⟨(placed 0 (textLines source)).flatMap
            fun l => (parse (trimLine l.2)).program.statements.map (Statement.shift l.1)⟩,
          (placed 0 (textLines source)).flatMap
            fun l => (parse (trimLine l.2)).faults.map (Fault.shift l.1)⟩ ∧
      ∀ draw prompt, run ⟨.ast,prompt⟩ (utf8 source) draw =
        ⟨String.join ((textLines source).map
            fun line => prompt ++ Mode.ast.printed draw (trimLine line)) ++ prompt ++ "\n",
          none⟩ := by
  refine ⟨?_,fun draw prompt => run_of_texts (map_utf8_textLines source)⟩
  have hclosed : ∀ l ∈ placed 0 (textLines source),
      ∀ t ∈ ((Lexer.ofText (trimLine l.2)).tokens.map (Token.shift l.1)).getLast?,
        t.kind = .punctuation .semicolon := by
    intro l hl
    apply semicolon_of_trimLine
    apply h
    rw [← map_snd_placed 0 (textLines source)]
    exact List.mem_map_of_mem hl
  have htokens : (Lexer.ofBytes (utf8 source)).tokens = _ := tokens_ofText_eq_flatMap source
  rw [parse, ParseResult.ofBytes_eq, htokens,
    statementsOf_flatMap hclosed (fun l => (Lexer.ofText (trimLine l.2)).last.shift l.1),
    faultsOf_flatMap hclosed (fun l => (Lexer.ofText (trimLine l.2)).last.shift l.1)]
  simp only [statementsOf_map_shift, faultsOf_map_shift, parse, ParseResult.ofBytes_eq]
  rfl

theorem parse_eq_flatMap_lines_returns :
    (∀ line ∈ textLines "let a = 1; \r\r\n\r\n@ let é; x;\nlet b = ;",
        ∀ t ∈ (Lexer.ofText line).tokens.getLast?, t.kind = .punctuation .semicolon) ∧
      placed 0 (textLines "let a = 1; \r\r\n\r\n@ let é; x;\nlet b = ;") =
        [(0, "let a = 1; \r\r\n"), (14, "\r\n"), (16, "@ let é; x;\n"), (29, "let b = ;")] ∧
      parse "let a = 1; \r\r\n\r\n@ let é; x;\nlet b = ;" =
        ⟨⟨[.letStatement ⟨⟨.keyword .letKey,"let",⟨0,3⟩⟩,⟨⟨.ident,"a",⟨4,5⟩⟩,"a"⟩,none,
            ⟨0,10⟩⟩,
          .letStatement ⟨⟨.keyword .letKey,"let",⟨29,32⟩⟩,⟨⟨.ident,"b",⟨33,34⟩⟩,"b"⟩,none,
            ⟨29,38⟩⟩]⟩,
          [.unsupportedStatement .illegal ⟨16,17⟩, .unexpectedToken .ident .illegal ⟨22,23⟩,
            .unsupportedStatement .ident ⟨26,27⟩]⟩ := by
  have h : ∀ line ∈ textLines "let a = 1; \r\r\n\r\n@ let é; x;\nlet b = ;",
      ∀ t ∈ (Lexer.ofText line).tokens.getLast?, t.kind = .punctuation .semicolon := by
    decide +kernel
  have hplaced : placed 0 (textLines "let a = 1; \r\r\n\r\n@ let é; x;\nlet b = ;") =
      [(0, "let a = 1; \r\r\n"), (14, "\r\n"), (16, "@ let é; x;\n"), (29, "let b = ;")] := by
    decide +kernel
  have hparse := (parse_eq_flatMap_lines _ h).1
  rw [hplaced] at hparse
  refine ⟨h,hplaced,hparse.trans ?_⟩
  decide +kernel

end Session

end LetLang
