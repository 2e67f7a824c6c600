import LetLang.Proofs.Boundary
import LetLang.Proofs.Spacing

namespace LetLang

open Text

theorem Text.utf8_inj {s t : String} (h : utf8 s = utf8 t) : s = t := by
  have hdecode := congrArg decode? h
  rw [decode?_utf8, decode?_utf8] at hdecode
  exact Option.some.inj hdecode

namespace Kind

def spelling? : Kind → Option String
  | keyword k => some k.spelling
  | operator o => some o.spelling
  | punctuation p => some p.spelling
  | ident | int | illegal | eof => none

def lookUps (s : String) : List (Option Kind) :=
  [(Keyword.ofSpelling? s).map keyword, (Operator.ofSpelling? s).map operator,
    (Punctuation.ofSpelling? s).map punctuation]

section
variable {k l : Kind} {s : String} {bs : List UInt8}

theorem mem_lookUps_iff : some k ∈ lookUps s ↔ k.spelling? = some s := by
  simp only [lookUps, List.mem_cons, List.not_mem_nil, or_false, eq_comm (a := some k),
    Option.map_eq_some_iff]
  cases k with
  | keyword k => simp [spelling?, Keyword.ofSpelling?_eq_some_iff]
  | operator o => simp [spelling?, Operator.ofSpelling?_eq_some_iff]
  | punctuation p => simp [spelling?, Punctuation.ofSpelling?_eq_some_iff]
  | ident | int | illegal | eof => simp [spelling?]

theorem Spelled.unique (hk : k.Spelled bs) (hl : l.Spelled bs) : k = l := by
  obtain ⟨b,ws,rfl⟩ := List.exists_cons_of_ne_nil hk.ne_nil
  have hend (k : Kind) : ∀ c ∈ ([] : List UInt8).head?, ¬k.extendedBy c := by simp
  have hlexeme := (lexeme_unique hk (hend k)).symm.trans (lexeme_unique hl (hend l))
  exact congrArg Prod.fst hlexeme

theorem spelled_iff_latin (h : k.spelling? = some s) : k.Spelled bs ↔ latin bs = s := by
  cases k with
  | keyword _ | operator _ | punctuation _ =>
    cases h
    exact Iff.rfl
  | ident | int | illegal | eof => cases h

section
variable (h : k.spelling? = some s)
include h

theorem wellFormed_of_spelling? : k.WellFormed s := by
  cases k with
  | keyword _ | operator _ | punctuation _ =>
    cases h
    rfl
  | ident | int | illegal | eof => cases h

theorem spelled_utf8 : k.Spelled (utf8 s) ∧ ∀ b ∈ utf8 s, ¬isBlank b := by
  obtain ⟨ws,rfl,hspelled,hblank⟩ := (wellFormed_of_spelling? h).exists_spelled
  have hk : k ≠ .illegal := by
    rintro rfl
    cases h
  rw [hspelled.utf8_latin hk]
  exact ⟨hspelled,hblank⟩

theorem latin_utf8_of_spelling? : latin (utf8 s) = s :=
  (spelled_iff_latin h).mp (spelled_utf8 h).1

theorem eq_of_spelling? (hl : l.spelling? = some s) : k = l :=
  (spelled_utf8 h).1.unique (spelled_utf8 hl).1

theorem lex_of_spelling? :
    lex (utf8 s) = [⟨k,s,⟨0,(utf8 s).length⟩⟩, .eof (utf8 s).length] := by
  have hlatin := latin_utf8_of_spelling? h
  obtain ⟨hspelled,hblank⟩ := spelled_utf8 h
  have hend : ∀ c ∈ ([] : List UInt8).head?, ¬k.extendedBy c := by simp
  obtain ⟨b,ws,hws⟩ := List.exists_cons_of_ne_nil hspelled.ne_nil
  rw [hws] at hspelled hblank hlatin ⊢
  have htokens := Lexer.tokens_of_spelled hspelled (hblank b List.mem_cons_self) hend 0
  rw [List.append_nil, Lexer.tokens_nil, hlatin] at htokens
  rw [lex_eq_append_eof, Lexer.ofBytes, htokens, List.length_cons, Nat.zero_add,
    Nat.add_comm 1]
  rfl

end

theorem spelling?_of_lex {literal : String} (hk : k.spelling?.isSome)
    (h : lex (utf8 s) = [⟨k,literal,⟨0,(utf8 s).length⟩⟩, .eof (utf8 s).length]) :
    k.spelling? = some s := by
  obtain ⟨r,hr⟩ := Option.isSome_iff_exists.mp hk
  have hmem : ⟨k,literal,⟨0,(utf8 s).length⟩⟩ ∈ (Lexer.ofBytes (utf8 s)).tokens := by
    rw [lex_eq_append_eof] at h
    have hinit := congrArg List.dropLast h
    rw [List.dropLast_concat] at hinit
    rw [hinit]
    exact List.mem_singleton_self _
  have hspelled := (Lexer.lexed_of_mem hmem).spelled
  have hwhole : Span.slice ⟨0,(utf8 s).length⟩ (utf8 s) = utf8 s := List.take_length
  rw [hwhole, spelled_iff_latin hr, ← latin_utf8_of_spelling? hr] at hspelled
  rw [hr, utf8_inj (latin_inj hspelled)]

theorem mem_lookUps_iff_lex :
    some k ∈ lookUps s ↔ k.spelling?.isSome ∧
      ∃ literal, lex (utf8 s) = [⟨k,literal,⟨0,(utf8 s).length⟩⟩, .eof (utf8 s).length] := by
  rw [mem_lookUps_iff]
  constructor
  · intro h
    exact ⟨Option.isSome_of_mem h,s,lex_of_spelling? h⟩
  · rintro ⟨hk,literal,hlex⟩
    exact spelling?_of_lex hk hlex

theorem countP_lookUps_le (s : String) : (lookUps s).countP Option.isSome ≤ 1 := by
  have hagree : ∀ o ∈ lookUps s, ∀ p ∈ lookUps s, o = none ∨ p = none ∨ o = p := by
    intro o ho p hp
    cases o with
    | none => exact .inl rfl
    | some k =>
      cases p with
      | none => exact .inr (.inl rfl)
      | some l =>
        rw [eq_of_spelling? (mem_lookUps_iff.mp ho) (mem_lookUps_iff.mp hp)]
        exact .inr (.inr rfl)
  unfold lookUps at hagree ⊢
  generalize Keyword.ofSpelling? s = k at hagree ⊢
  generalize Operator.ofSpelling? s = o at hagree ⊢
  generalize Punctuation.ofSpelling? s = p at hagree ⊢
  cases k <;> cases o <;> cases p <;> simp at hagree ⊢

end

end Kind

section
variable {bytes : List UInt8} {t : Token}

theorem Token.Lexed.spelling?_iff (h : t.Lexed bytes) {k : Kind} :
    k.spelling? = some t.literal ↔ k.spelling?.isSome ∧ t.kind = k := by
  rw [h.literal]
  constructor
  · intro hk
    exact ⟨Option.isSome_of_mem hk,h.spelled.unique ((Kind.spelled_iff_latin hk).mpr rfl)⟩
  · rintro ⟨hk,rfl⟩
    obtain ⟨s,hs⟩ := Option.isSome_iff_exists.mp hk
    rw [hs, (Kind.spelled_iff_latin hs).mp h.spelled]

theorem spelling?_eq_literal (ht : t ∈ lex bytes) {s : String} (hs : t.kind.spelling? = some s) :
    t.literal = s := by
  rw [lex_eq_append_eof] at ht
  rcases List.mem_append.mp ht with ht | ht
  · have hliteral := (Lexer.lexed_of_mem ht).spelling?_iff.mpr ⟨Option.isSome_of_mem hs,rfl⟩
    exact Option.some.inj (hliteral.symm.trans hs)
  · rw [List.mem_singleton.mp ht] at hs
    cases hs

theorem lookUps_literal_eq_none (ht : t ∈ lex bytes)
    (hk : t.kind = .ident ∨ t.kind = .int ∨ t.kind = .illegal) :
    ∀ o ∈ Kind.lookUps t.literal, o = none := by
  rw [lex_eq_append_eof] at ht
  rcases List.mem_append.mp ht with ht | ht
  · intro o ho
    cases o with
    | none => rfl
    | some k =>
      obtain ⟨hfixed,rfl⟩ :=
        (Lexer.lexed_of_mem ht).spelling?_iff.mp (Kind.mem_lookUps_iff.mp ho)
      rcases hk with hk | hk | hk <;> simp [hk, Kind.spelling?] at hfixed
  · rw [List.mem_singleton.mp ht] at hk
    simp [Token.eof] at hk

end

theorem lookUps_agree_with_lex :
    (∀ s : String, (Kind.lookUps s).countP Option.isSome ≤ 1 ∧
      ∀ k : Kind, (some k ∈ Kind.lookUps s ↔ k.spelling? = some s) ∧
        (some k ∈ Kind.lookUps s ↔ k.spelling?.isSome ∧ ∃ literal,
          lex (utf8 s) = [⟨k,literal,⟨0,(utf8 s).length⟩⟩, .eof (utf8 s).length])) ∧
    ∀ bytes : List UInt8, ∀ t ∈ lex bytes,
      (∀ s ∈ t.kind.spelling?, t.literal = s) ∧
        (t.kind = .ident ∨ t.kind = .int ∨ t.kind = .illegal →
          ∀ o ∈ Kind.lookUps t.literal, o = none) := by
  constructor
  · intro s
    exact ⟨Kind.countP_lookUps_le s,fun k => ⟨Kind.mem_lookUps_iff,Kind.mem_lookUps_iff_lex⟩⟩
  · intro bytes t ht
    exact ⟨fun s hs => spelling?_eq_literal ht hs,lookUps_literal_eq_none ht⟩

theorem lookUps_agree_with_lex_accented :
    (⟨.operator .notEq,"!=",⟨0,2⟩⟩ ∈ lex (utf8 "!=é") ∧
      Operator.notEq.spelling ∈ (Kind.operator .notEq).spelling? ∧
        "!=" = Operator.notEq.spelling) ∧
    (⟨.illegal,"Ã",⟨2,3⟩⟩ ∈ lex (utf8 "!=é") ∧ ∀ o ∈ Kind.lookUps "Ã", o = none) := by
  have hsign : ⟨.operator .notEq,"!=",⟨0,2⟩⟩ ∈ lex (utf8 "!=é") := by decide +kernel
  have hillegal : ⟨.illegal,"Ã",⟨2,3⟩⟩ ∈ lex (utf8 "!=é") := by decide +kernel
  obtain ⟨_,htokens⟩ := lookUps_agree_with_lex
  exact ⟨⟨hsign,rfl,(htokens _ _ hsign).1 _ rfl⟩,hillegal,
    (htokens _ _ hillegal).2 (.inr (.inr rfl))⟩

end LetLang
