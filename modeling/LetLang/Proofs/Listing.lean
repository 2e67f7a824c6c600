import LetLang.Proofs.Linewise
import LetLang.Proofs.Expectation
import LetLang.Proofs.Quoting

namespace LetLang

open Text

theorem Kind.isUpper_or_underscore_of_mem_tag (k : Kind) :
    ∀ c ∈ k.tag.toList, c.isUpper ∨ c = '_' := by
  have hall : k.tag.toList.all fun c => c.isUpper || c == '_' := by
    cases k with
    | keyword k => cases k <;> decide
    | operator o => cases o <;> decide
    | punctuation p => cases p <;> decide
    | ident | int | illegal | eof => decide
  intro c hc
  simpa only [Bool.or_eq_true, beq_iff_eq] using List.all_eq_true.mp hall c hc

theorem Kind.not_mem_tag {c : Char} (hc : ¬(c.isUpper ∨ c = '_')) (k : Kind) :
    c ∉ k.tag.toList :=
  fun h => hc (k.isUpper_or_underscore_of_mem_tag c h)

namespace Token

variable (t : Token)

theorem newline_not_mem_render : '\n' ∉ t.render.toList := by
  have htag := t.kind.not_mem_tag (c := '\n') (by decide)
  simp [render, htag, newline_not_mem_quote]

def place : String :=
  toString t.span.start ++ ".." ++ toString t.span.stop

theorem isDigit_or_dot_of_mem_place {c : Char} (h : c ∈ t.place.toList) : c.isDigit ∨ c = '.' := by
  have hdigit {n : Nat} (hc : c ∈ (toString n).toList) : c.isDigit := by
    rw [Nat.toString_eq_repr, Nat.toList_repr] at hc
    exact Nat.isDigit_of_mem_toDigits (by decide) (by decide) hc
  have hdots : "..".toList = ['.', '.'] := rfl
  simp only [place, String.toList_append, List.mem_append, hdots, List.mem_cons, List.not_mem_nil,
    or_false, or_self] at h
  rcases h with (h | h) | h
  · exact .inl (hdigit h)
  · exact .inr h
  · exact .inl (hdigit h)

theorem space_not_mem_place : ' ' ∉ t.place.toList := by
  intro h
  have hc := t.isDigit_or_dot_of_mem_place h
  simp at hc

theorem newline_not_mem_place : '\n' ∉ t.place.toList := by
  intro h
  have hc := t.isDigit_or_dot_of_mem_place h
  simp at hc

def line : String :=
  t.render ++ " " ++ t.place

theorem entry_eq_line : t.entry = t.line ++ "\n" := by
  simp only [entry, line, place, String.append_assoc]

theorem render_eof (n : Nat) : (eof n).render = "EOF(\"\")" := rfl

theorem newline_not_mem_line : '\n' ∉ t.line.toList := by
  simp [line, t.newline_not_mem_render, t.newline_not_mem_place]

theorem render_ne_of_ne_eof {t : Token} (h : t.kind ≠ .eof) : t.render ≠ "EOF(\"\")" := by
  intro heq
  have hlist := congrArg String.toList heq
  rw [render, String.toList_append, String.toList_append, String.toList_append] at hlist
  cases hk : t.kind with
  | keyword k => cases k <;> simp [hk, Kind.tag, Keyword.tag] at hlist
  | operator o => cases o <;> simp [hk, Kind.tag, Operator.tag] at hlist
  | punctuation p => cases p <;> simp [hk, Kind.tag, Punctuation.tag] at hlist
  | ident | int | illegal => simp [hk, Kind.tag] at hlist
  | eof => exact h hk

end Token

namespace Listing

def lines (text : String) : List String :=
  (text.toList.splitOn '\n').dropLast.map String.ofList

theorem lines_cons {line : String} (h : '\n' ∉ line.toList) (rest : String) :
    lines (line ++ "\n" ++ rest) = line :: lines rest := by
  have hlist : (line ++ "\n" ++ rest).toList = line.toList ++ '\n' :: rest.toList := by simp
  have hne : rest.toList.splitOn '\n' ≠ [] := List.splitOn_ne_nil '\n' rest.toList
  rw [lines, hlist, List.splitOn_append_cons_self_of_not_mem h, List.dropLast_cons_of_ne_nil hne,
    List.map_cons, String.ofList_toList, lines]

theorem lines_join {ls : List String} (h : ∀ l ∈ ls, '\n' ∉ l.toList) :
    lines (String.join (ls.map (· ++ "\n"))) = ls := by
  induction ls with
  | nil => rfl
  | cons l ls ih =>
    obtain ⟨hl,hls⟩ := List.forall_mem_cons.mp h
    rw [List.map_cons, String.join_cons, lines_cons hl, ih hls]

def withoutPlace (line : String) : String :=
  String.ofList (line.toList.reverse.dropWhile (· ≠ ' ')).tail.reverse

theorem withoutPlace_append {place : String} (h : ' ' ∉ place.toList) (text : String) :
    withoutPlace (text ++ " " ++ place) = text := by
  have hall : ∀ c ∈ place.toList.reverse, decide (c ≠ ' ') := by
    intro c hc
    apply decide_eq_true
    rintro rfl
    exact h (List.mem_reverse.mp hc)
  have hline : (text ++ " " ++ place).toList.reverse =
      place.toList.reverse ++ ' ' :: text.toList.reverse := by
    simp
  rw [withoutPlace, hline, List.dropWhile_append_of_pos hall, List.dropWhile_cons_of_neg (by simp),
    List.tail_cons, List.reverse_reverse, String.ofList_toList]

def echo (line : String) : String :=
  if withoutPlace line = "EOF(\"\")" then "" else withoutPlace line

theorem echo_line (t : Token) :
    echo t.line = if t.render = "EOF(\"\")" then "" else t.render := by
  rw [echo, Token.line, withoutPlace_append t.space_not_mem_place]

theorem lines_listing (source : String) :
    lines (listing source) = (lex (utf8 source)).map Token.line := by
  have hentries : listing source =
      String.join (((lex (utf8 source)).map Token.line).map (· ++ "\n")) := by
    rw [listing, List.map_map]
    congr 2
    funext t
    exact t.entry_eq_line
  rw [hentries]
  apply lines_join
  intro l hl
  obtain ⟨t,_,rfl⟩ := List.mem_map.mp hl
  exact t.newline_not_mem_line

theorem map_echo_lines (source : String) :
    (lines (listing source)).map echo = (Lexer.ofText source).tokens.map Token.render ++ [""] := by
  have hlex : lex (utf8 source) = (Lexer.ofText source).tokens ++ [(Lexer.ofText source).last] :=
    Lexer.lex_eq (utf8 source)
  have hend : echo (Lexer.ofText source).last.line = "" := by
    rw [echo_line]
    exact if_pos (Token.render_eof _)
  have hechoes : (Lexer.ofText source).tokens.map (echo ∘ Token.line) =
      (Lexer.ofText source).tokens.map Token.render := by
    apply List.map_congr_left
    intro t ht
    have hne := Token.render_ne_of_ne_eof (Lexer.kind_ne_eof_of_mem ht)
    rw [Function.comp_apply, echo_line, if_neg hne]
  rw [lines_listing, hlex, List.map_map, List.map_append, List.map_singleton, hechoes,
    Function.comp_apply, hend]

end Listing

theorem join_map_join {α : Type} (f : α → List String) (xs : List α) :
    String.join (xs.map fun x => String.join (f x)) = String.join (xs.flatMap f) := by
  induction xs with
  | nil => rfl
  | cons x xs ih => rw [List.map_cons, String.join_cons, ih, List.flatMap_cons, String.join_append]

namespace Session

theorem map_render_tokens (source : String) :
    (Lexer.ofText source).tokens.map (fun t => t.render ++ "\n") =
      (textLines source).flatMap
        fun line => (Lexer.ofText (trimLine line)).tokens.map (fun t => t.render ++ "\n") := by
  have hrender (n : Nat) : (fun t : Token => t.render ++ "\n") ∘ Token.shift n =
      fun t => t.render ++ "\n" := rfl
  rw [tokens_ofText_eq_flatMap, List.map_flatMap]
  simp only [List.map_map, hrender]
  have hsnd := congrArg (List.flatMap fun line =>
    (Lexer.ofText (trimLine line)).tokens.map fun t => t.render ++ "\n")
      (map_snd_placed 0 (textLines source))
  rwa [List.flatMap_map] at hsnd

theorem join_printed_tokens (draw : Renderer) (source : String) :
    String.join ((textLines source).map fun line => "" ++ Mode.tokens.printed draw (trimLine line)) =
      String.join ((Lexer.ofText source).tokens.map fun t => t.render ++ "\n") := by
  have hprinted (line : String) : "" ++ Mode.tokens.printed draw (trimLine line) =
      String.join ((Lexer.ofText (trimLine line)).tokens.map fun t => t.render ++ "\n") := by
    rw [String.empty_append, Mode.printed, Lexer.lex_eq, List.dropLast_concat]
    rfl
  rw [map_render_tokens, ← join_map_join]
  simp only [hprinted]

theorem join_echo_lines (source : String) :
    String.join ((Listing.lines (listing source)).map fun line => Listing.echo line ++ "\n") =
      String.join ((Lexer.ofText source).tokens.map fun t => t.render ++ "\n") ++ "\n" := by
  have hechoes : (Listing.lines (listing source)).map (fun line => Listing.echo line ++ "\n") =
      ((Lexer.ofText source).tokens.map Token.render ++ [""]).map (· ++ "\n") := by
    rw [← Listing.map_echo_lines, List.map_map]
    rfl
  rw [hechoes, List.map_append, List.map_map, String.join_append]
  rfl

theorem run_tokens_eq_echo_listing (draw : Renderer) (source : String) :
    run ⟨.tokens,""⟩ (utf8 source) draw =
        ⟨String.join ((lex (utf8 source)).dropLast.map fun t => t.render ++ "\n") ++ "\n",none⟩ ∧
      (run ⟨.tokens,""⟩ (utf8 source) draw).output =
        String.join ((Listing.lines (listing source)).map fun line => Listing.echo line ++ "\n") := by
  have hrun : run ⟨.tokens,""⟩ (utf8 source) draw = _ := run_of_texts (map_utf8_textLines source)
  have htokens : (lex (utf8 source)).dropLast = (Lexer.ofText source).tokens := by
    rw [Lexer.lex_eq, List.dropLast_concat]
    rfl
  rw [hrun, join_printed_tokens, String.append_empty, htokens, join_echo_lines]
  exact ⟨rfl,rfl⟩

end Session

end LetLang
