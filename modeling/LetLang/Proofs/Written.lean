import LetLang.Proofs.Encoding
import LetLang.Proofs.Composition
import LetLang.Proofs.Grammar

namespace LetLang

open Text

def IsWordChar (c : Char) : Prop :=
  'A' ≤ c ∧ c ≤ 'Z' ∨ 'a' ≤ c ∧ c ≤ 'z' ∨ c = '_'

instance : DecidablePred IsWordChar :=
  fun _ => inferInstanceAs (Decidable (_ ∨ _ ∨ _))

namespace IsWordChar

variable {c : Char} (h : IsWordChar c)
include h

theorem toNat_cases :
    65 ≤ c.toNat ∧ c.toNat ≤ 90 ∨ 97 ≤ c.toNat ∧ c.toNat ≤ 122 ∨ c.toNat = 95 := by
  rcases h with h | h | rfl
  · exact .inl h
  · exact .inr (.inl h)
  · exact .inr (.inr rfl)

theorem toNat_lt : c.toNat < 0x80 := by
  have hc := h.toNat_cases
  omega

theorem isLetter_toUInt8 : isLetter c.toUInt8 := by
  have hc := h.toNat_cases
  have hn := toNat_toUInt8 h.toNat_lt
  simp only [isLetter, Bool.or_eq_true, Bool.and_eq_true, decide_eq_true_eq, beq_iff_eq,
    UInt8.le_iff_toNat_le, ← UInt8.toNat_inj, hn]
  simp only [UInt8.reduceToNat]
  omega

end IsWordChar

theorem Lexer.exists_token_before_blank {k : Kind} {ws : List UInt8} (h : k.Spelled ws)
    (hb : ∀ b ∈ ws, ¬isBlank b) (n : Nat) (rest : List UInt8) :
    ∃ t m, t.kind = k ∧ t.literal = latin ws ∧
      tokens ⟨n,ws ++ 0x20 :: rest⟩ = t :: tokens ⟨m,rest⟩ := by
  have hblank : isBlank 0x20 := by decide
  have hhead : ∀ c ∈ (0x20 :: rest).head?, isBlank c := by
    rintro c ⟨⟩
    exact hblank
  obtain ⟨t,m,hk,hlit,htokens⟩ := exists_token_of_spelled h hb hhead n
  rw [tokens_blank hblank] at htokens
  exact ⟨t,m + 1,hk,hlit,htokens⟩

structure Definition where
  name : String
  value : String
  name_ne_empty : name ≠ ""
  name_word : ∀ c ∈ name.toList, IsWordChar c
  name_free : ∀ k : Keyword, name ≠ k.spelling
  value_open : ';' ∉ value.toList

namespace Definition

def text (d : Definition) : String :=
  "let " ++ d.name ++ " = " ++ d.value ++ ";"

theorem utf8_text (d : Definition) :
    utf8 d.text = [0x6C, 0x65, 0x74] ++ 0x20 :: (utf8 d.name ++ 0x20 :: ([0x3D] ++ 0x20 ::
      (utf8 d.value ++ [0x3B]))) := by
  have hlet : utf8 "let " = [0x6C, 0x65, 0x74, 0x20] := by decide +kernel
  have heq : utf8 " = " = [0x20, 0x3D, 0x20] := by decide +kernel
  have hstop : utf8 ";" = [0x3B] := by decide +kernel
  simp only [text, utf8_append, hlet, heq, hstop, List.append_assoc]
  rfl

theorem latin_name (d : Definition) : latin (utf8 d.name) = d.name :=
  latin_utf8_of_ascii (fun c hc => (d.name_word c hc).toNat_lt)

theorem isLetter_name (d : Definition) : ∀ b ∈ utf8 d.name, isLetter b := by
  rw [utf8_of_ascii (fun c hc => (d.name_word c hc).toNat_lt)]
  intro b hb
  obtain ⟨c,hc,rfl⟩ := List.mem_map.mp hb
  exact (d.name_word c hc).isLetter_toUInt8

theorem spelled_name (d : Definition) : Kind.ident.Spelled (utf8 d.name) := by
  refine ⟨fun hnil => d.name_ne_empty ?_,d.isLetter_name,?_⟩
  · rw [← d.latin_name, hnil]
    rfl
  · rw [d.latin_name]
    exact d.name_free

theorem semicolon_not_mem_value (d : Definition) : 0x3B ∉ utf8 d.value := by
  have h := toUInt8_mem_utf8_iff (c := ';') (by decide) d.value
  exact fun hm => d.value_open (h.mp hm)

theorem tokens_value (d : Definition) (n : Nat) :
    ∃ e, e.kind = .punctuation .semicolon ∧
      Lexer.tokens ⟨n,utf8 d.value ++ [0x3B]⟩ = Lexer.tokens ⟨n,utf8 d.value⟩ ++ [e] := by
  have happ : Lexer.tokens ⟨n,utf8 d.value ++ [0x3B]⟩ =
      Lexer.tokens ⟨n,utf8 d.value⟩ ++ Lexer.tokens ⟨n + (utf8 d.value).length,[0x3B]⟩ :=
    Lexer.tokens_append ⟨n,utf8 d.value⟩ [0x3B]
      (fun t _ _ => t.kind.head_not_extendedBy (by decide) (by decide) (by decide))
  have hend : ∀ c ∈ ([] : List UInt8).head?, ¬(Kind.punctuation .semicolon).extendedBy c := by
    simp
  have hstop := Lexer.tokens_of_spelled spelled_semicolon (by decide) hend
    (n + (utf8 d.value).length)
  rw [List.nil_append, Lexer.tokens_nil] at hstop
  rw [hstop] at happ
  exact ⟨_,rfl,happ⟩

theorem exists_binding (d : Definition) (n : Nat) :
    ∃ b : Binding, b.name.literal = d.name ∧ Lexer.tokens ⟨n,utf8 d.text⟩ = b.tokens := by
  have hkeyword : (Kind.keyword .letKey).Spelled [0x6C, 0x65, 0x74] := latin_eq_iff.mpr rfl
  have hassign : (Kind.operator .assign).Spelled [0x3D] := latin_eq_iff.mpr rfl
  have hname : ∀ b ∈ utf8 d.name, ¬isBlank b :=
    fun b hb => ((classes_disjoint b).1 (d.isLetter_name b hb)).2
  obtain ⟨l,m₁,hl,_,h₁⟩ := Lexer.exists_token_before_blank hkeyword (by simp [isBlank]) n
    (utf8 d.name ++ 0x20 :: ([0x3D] ++ 0x20 :: (utf8 d.value ++ [0x3B])))
  obtain ⟨t,m₂,ht,hlit,h₂⟩ := Lexer.exists_token_before_blank d.spelled_name hname m₁
    ([0x3D] ++ 0x20 :: (utf8 d.value ++ [0x3B]))
  obtain ⟨a,m₃,ha,_,h₃⟩ := Lexer.exists_token_before_blank hassign (by simp [isBlank]) m₂
    (utf8 d.value ++ [0x3B])
  obtain ⟨e,he,h₄⟩ := d.tokens_value m₃
  have hvs : ∀ v ∈ Lexer.tokens ⟨m₃,utf8 d.value⟩, v.kind ≠ .punctuation .semicolon :=
    fun v hv hk => d.semicolon_not_mem_value (Lexer.semicolon_mem_rest hv hk)
  refine ⟨⟨l,t,a,_,e,hl,ht,ha,hvs,he⟩,hlit.trans d.latin_name,?_⟩
  rw [utf8_text, h₁, h₂, h₃, h₄]
  rfl

-- By induction on the definitions, from any place: each ends in a semicolon, which no byte extends.
theorem exists_bindings (ds : List Definition) (n : Nat) :
    ∃ bs : List Binding, bs.map (fun b => b.name.literal) = ds.map name ∧
      Lexer.tokens ⟨n,utf8 (String.join (ds.map text))⟩ = bs.flatMap Binding.tokens := by
  induction ds generalizing n with
  | nil => exact ⟨[],rfl,Lexer.tokens_nil n⟩
  | cons d ds ih =>
    obtain ⟨b,hname,hb⟩ := d.exists_binding n
    obtain ⟨bs,hnames,hbs⟩ := ih (n + (utf8 d.text).length)
    have hlast : ∀ t ∈ (Lexer.tokens ⟨n,utf8 d.text⟩).getLast?,
        t.kind = .punctuation .semicolon := by
      intro t ht
      rw [hb, b.getLast?_tokens] at ht
      cases ht
      exact b.stop_kind
    have happ := Lexer.tokens_append_of_semicolon hlast (utf8 (String.join (ds.map text)))
    refine ⟨b :: bs,?_,?_⟩
    · rw [List.map_cons, List.map_cons, hname, hnames]
    · rw [List.map_cons, String.join_cons, utf8_append, List.flatMap_cons, ← hb, ← hbs]
      exact happ

end Definition

theorem parse_accepts_grammar :
    (∀ source : String,
      ((∃ p, (parse source).toExcept = .ok p) ↔
        (Lexer.ofText source).tokens.map Token.kind ∈ Grammar.program) ∧
      ∀ p, (parse source).toExcept = .ok p ↔
        ∃ ps : List Production, ps.flatMap Production.tokens = (Lexer.ofText source).tokens ∧
          p = ⟨ps.filterMap Production.statement?⟩) ∧
    ∀ ds : List Definition, ∃ ss : List LetStatement,
      (parse (String.join (ds.map Definition.text))).toExcept = .ok ⟨ss.map .letStatement⟩ ∧
        ss.map (fun s => s.name.value) = ds.map Definition.name := by
  refine ⟨fun source => ⟨?_,fun p => ParseResult.toExcept_ofBytes_eq_ok_iff⟩,fun ds => ?_⟩
  · rw [Production.kinds_mem_program_iff]
    constructor
    · rintro ⟨p,hp⟩
      obtain ⟨ps,hps,_⟩ := ParseResult.toExcept_ofBytes_eq_ok_iff.mp hp
      exact ⟨ps,hps⟩
    · rintro ⟨ps,hps⟩
      exact ⟨_,ParseResult.toExcept_ofBytes_eq_ok_iff.mpr ⟨ps,hps,rfl⟩⟩
  · obtain ⟨bs,hnames,htokens⟩ := Definition.exists_bindings ds 0
    refine ⟨bs.map Binding.statement,?_,?_⟩
    · refine ParseResult.toExcept_ofBytes_eq_ok_iff.mpr ⟨bs.map .binding,?_,?_⟩
      · rw [List.flatMap_map]
        exact htokens.symm
      · rw [List.filterMap_map, List.map_map, ← List.filterMap_eq_map]
        rfl
    · rw [List.map_map]
      exact hnames

theorem parse_accepts_grammar_nested_let :
    ∃ ss : List LetStatement,
      (parse "let a = let b = é =;let in_ = ;").toExcept = .ok ⟨ss.map .letStatement⟩ ∧
        ss.map (fun s => s.name.value) = ["a", "in_"] := by
  have ha : ∀ k : Keyword, "a" ≠ k.spelling := by
    intro k
    cases k <;> decide
  have hin : ∀ k : Keyword, "in_" ≠ k.spelling := by
    intro k
    cases k <;> decide
  exact parse_accepts_grammar.2
    [⟨"a","let b = é =",by decide,by simp [IsWordChar],ha,by decide⟩,
      ⟨"in_","",by decide,by simp [IsWordChar],hin,by decide⟩]

end LetLang
