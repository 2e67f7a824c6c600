import LetLang.Command.Request

namespace LetLang

open Argument (dash equals divide separate attach)
open Text (utf8 decode? decode?_utf8)

namespace Argument

def Standalone (value : OsText) : Prop :=
  value.head? = some dash → value = [dash]

theorem attach_ne_separate {name name' value : OsText} (h : equals ∉ name) :
    attach name' value ≠ separate name := by
  intro heq
  have hmem : equals ∈ attach name' value := by simp [attach]
  rw [heq, separate, List.mem_cons, List.mem_cons] at hmem
  rcases hmem with hdash | hdash | hname
  · exact absurd hdash (by decide)
  · exact absurd hdash (by decide)
  · exact h hname

theorem not_standalone_separate (name : OsText) : ¬Standalone (separate name) :=
  fun h => List.cons_ne_nil _ _ (List.cons.inj (h rfl)).2

def ending (divided : Bool) : List OsText :=
  if divided then [divide] else []

theorem ending_ne (divided : Bool) (before after : List OsText) (arg value : OsText) :
    ending divided ≠ before ++ arg :: value :: after := by
  intro h
  have hle : (ending divided).length ≤ 1 := by cases divided <;> decide
  rw [h, List.length_append, List.length_cons, List.length_cons] at hle
  omega

end Argument

open Argument (Standalone attach_ne_separate not_standalone_separate ending ending_ne)

namespace Given

variable {gs : List Given} {name value : OsText}

theorem mem_of_value?_eq_some (h : value? gs name = some value) : ⟨name,value⟩ ∈ gs := by
  obtain ⟨g,hg,rfl⟩ := Option.map_eq_some_iff.mp h
  have hname : g.name = name := by simpa using List.find?_some hg
  rw [← hname]
  exact List.mem_of_find?_eq_some hg

theorem isSome_value?_iff : (value? gs name).isSome ↔ name ∈ gs.map Given.name := by
  simp [value?, List.find?_isSome]

theorem value?_cons_self : value? (⟨name,value⟩ :: gs) name = some value := by
  simp [value?]

theorem value?_cons_of_ne {g : Given} (h : g.name ≠ name) :
    value? (g :: gs) name = value? gs name := by
  simp [value?, h]

end Given

structure OptionRule.Permits (os : List OptionRule) (gs : List Given) : Prop where
  taken : ∀ g ∈ gs, ∃ o ∈ os, o.name = g.name ∧ o.takes g.value
  once : (gs.map Given.name).Nodup
  compatible : ¬OptionRule.Conflict os gs

structure Entry where
  given : Given
  apart : Bool

namespace Entry

def arguments (e : Entry) : List OsText :=
  if e.apart then [separate e.given.name, e.given.value] else [attach e.given.name e.given.value]

theorem arguments_attached (g : Given) : arguments ⟨g,false⟩ = [attach g.name g.value] := rfl

theorem arguments_apart (g : Given) : arguments ⟨g,true⟩ = [separate g.name, g.value] := rfl

theorem length_arguments_pos (e : Entry) : 0 < e.arguments.length := by
  rw [arguments]
  split <;> exact Nat.succ_pos _

def Readable (e : Entry) : Prop :=
  e.apart → Standalone e.given.value

section
variable {name value : OsText} (hname : equals ∉ name) {before after rest : List OsText}
include hname

theorem cut_at_pair {e : Entry} (he : e.Readable)
    (h : e.arguments ++ rest = before ++ separate name :: value :: after) :
    (before = [] ∧ e = ⟨⟨name,value⟩,true⟩ ∧ after = rest) ∨
    ∃ before', before = e.arguments ++ before' ∧
      rest = before' ++ separate name :: value :: after := by
  obtain ⟨⟨name',value'⟩,apart⟩ := e
  cases apart with
  | false =>
    cases before with
    | nil => exact absurd (List.cons.inj h).1 (attach_ne_separate hname)
    | cons arg before =>
      obtain ⟨rfl,hrest⟩ := List.cons.inj h
      exact .inr ⟨before,rfl,hrest⟩
  | true =>
    match before with
    | [] =>
      obtain ⟨hsep,htail⟩ := List.cons.inj h
      obtain ⟨rfl,rfl⟩ := List.cons.inj htail
      obtain rfl : name' = name := (List.cons.inj (List.cons.inj hsep).2).2
      exact .inl ⟨rfl,rfl,rfl⟩
    | [arg] =>
      have hvalue : value' = separate name := (List.cons.inj (List.cons.inj h).2).1
      exact absurd (hvalue ▸ he rfl) (not_standalone_separate name)
    | arg :: arg' :: before =>
      obtain ⟨rfl,htail⟩ := List.cons.inj h
      obtain ⟨rfl,hrest⟩ := List.cons.inj htail
      exact .inr ⟨before,rfl,hrest⟩

-- By induction on the entries: the pair is one of them, or it stands wholly behind them.
theorem exists_pair {es : List Entry} (hes : ∀ e ∈ es, e.Readable)
    (h : es.flatMap arguments ++ rest = before ++ separate name :: value :: after) :
    (∃ es₁ es₂, es = es₁ ++ ⟨⟨name,value⟩,true⟩ :: es₂ ∧ before = es₁.flatMap arguments ∧
      after = es₂.flatMap arguments ++ rest) ∨
    ∃ before', before = es.flatMap arguments ++ before' ∧
      rest = before' ++ separate name :: value :: after := by
  induction es generalizing before with
  | nil => exact .inr ⟨before,rfl,h⟩
  | cons e es ih =>
    obtain ⟨he,hes⟩ := List.forall_mem_cons.mp hes
    rw [List.flatMap_cons, List.append_assoc] at h
    rcases cut_at_pair hname he h with ⟨rfl,rfl,rfl⟩ | ⟨before,rfl,hbehind⟩
    · exact .inl ⟨[],es,rfl,rfl,rfl⟩
    rcases ih hes hbehind with ⟨es₁,es₂,rfl,rfl,rfl⟩ | ⟨before,rfl,hrest⟩
    · exact .inl ⟨e :: es₁,es₂,rfl,rfl,rfl⟩
    · refine .inr ⟨before,?_,hrest⟩
      rw [List.flatMap_cons, List.append_assoc]

end

end Entry

namespace OptionRule

structure Allows (os : List OptionRule) (es : List Entry) : Prop where
  permitted : Permits os (es.map Entry.given)
  readable : ∀ e ∈ es, e.Readable

theorem Allows.attached {os : List OptionRule} {es₁ es₂ : List Entry} {g : Given}
    (h : Allows os (es₁ ++ ⟨g,true⟩ :: es₂)) : Allows os (es₁ ++ ⟨g,false⟩ :: es₂) := by
  refine ⟨?_,?_⟩
  · have hpermitted := h.permitted
    rwa [List.map_append, List.map_cons] at hpermitted ⊢
  · rintro e he
    rcases List.mem_append.mp he with he | he
    · exact h.readable e (List.mem_append_left _ he)
    rcases List.mem_cons.mp he with rfl | he
    · exact nofun
    · exact h.readable e (List.mem_append_right _ (List.mem_cons_of_mem _ he))

theorem Allows.exists_attached {os : List OptionRule} {es : List Entry} (hes : Allows os es)
    {name value : OsText} (hname : equals ∉ name) {before after rest : List OsText}
    (h : es.flatMap Entry.arguments ++ rest = before ++ separate name :: value :: after) :
    (∃ es', Allows os es' ∧ es'.map Entry.given = es.map Entry.given ∧
      es'.flatMap Entry.arguments ++ rest = before ++ attach name value :: after) ∨
    ∃ before', before = es.flatMap Entry.arguments ++ before' ∧
      rest = before' ++ separate name :: value :: after := by
  rcases Entry.exists_pair hname hes.readable h with ⟨es₁,es₂,rfl,rfl,rfl⟩ | hbehind
  · refine .inl ⟨es₁ ++ ⟨⟨name,value⟩,false⟩ :: es₂,hes.attached,?_,?_⟩
    · simp only [List.map_append, List.map_cons]
    · rw [List.flatMap_append, List.flatMap_cons, List.append_assoc, List.append_assoc]
      rfl
  · exact .inr hbehind

end OptionRule

structure CommandLine where
  options : List Entry
  session : Option (List Entry)
  divided : Bool

namespace CommandLine

def arguments (l : CommandLine) : List OsText :=
  l.options.flatMap Entry.arguments ++
    match l.session with
    | none => ending l.divided
    | some es => utf8 "repl" :: (es.flatMap Entry.arguments ++ ending l.divided)

def request (l : CommandLine) : Request OsText :=
  .ofGiven (l.options.map Entry.given) (l.session.map fun es => .ofGiven (es.map Entry.given))

structure WellFormed (l : CommandLine) : Prop where
  options : OptionRule.Allows Request.options l.options
  session : ∀ es, l.session = some es → OptionRule.Allows Session.options es

theorem WellFormed.exists_attached {l : CommandLine} (hl : l.WellFormed) {name value : OsText}
    (hname : equals ∉ name) {before after : List OsText}
    (h : l.arguments = before ++ separate name :: value :: after) :
    ∃ l' : CommandLine, l'.WellFormed ∧ l'.request = l.request ∧
      l'.arguments = before ++ attach name value :: after := by
  rcases hl.options.exists_attached hname h with ⟨es,hes,hgiven,hargs⟩ | ⟨before,rfl,hrest⟩
  · refine ⟨⟨es,l.session,l.divided⟩,⟨hes,hl.session⟩,?_,hargs⟩
    rw [request, request, hgiven]
  cases hs : l.session with
  | none =>
    rw [hs] at hrest
    exact absurd hrest (ending_ne _ _ _ _ _)
  | some ss =>
    rw [hs] at hrest
    cases before with
    | nil => exact absurd (List.cons.inj (List.cons.inj hrest).1).1 (by decide)
    | cons arg before =>
      obtain ⟨rfl,htail⟩ := List.cons.inj hrest
      rcases (hl.session ss hs).exists_attached hname htail with
        ⟨es,hes,hgiven,hargs⟩ | ⟨before,rfl,hend⟩
      · refine ⟨⟨l.options,some es,l.divided⟩,⟨hl.options,?_⟩,?_,?_⟩
        · rintro _ ⟨⟩
          exact hes
        · rw [request, request, hs, Option.map_some, Option.map_some, hgiven]
        · rw [List.append_assoc, List.cons_append, ← hargs]
          rfl
      · exact absurd hend (ending_ne _ _ _ _ _)

end CommandLine

namespace Request

structure WellFormed (r : Request OsText) : Prop where
  single : ¬(r.lex.isSome ∧ r.parse.isSome)
  lex_ne : r.lex ≠ some []
  parse_ne : r.parse ≠ some []

theorem ne_nil_of_permits {gs : List Given} (h : OptionRule.Permits options gs) {name : OsText} :
    Given.value? gs name ≠ some [] := by
  intro hv
  obtain ⟨o,ho,_,htakes⟩ := h.taken _ (Given.mem_of_value?_eq_some hv)
  rw [options, List.mem_cons, List.mem_singleton] at ho
  rcases ho with rfl | rfl <;> cases htakes

end Request

theorem CommandLine.WellFormed.wellFormed_request {l : CommandLine} (h : l.WellFormed) :
    l.request.WellFormed := by
  have hfiles := h.options.permitted
  refine ⟨?_,Request.ne_nil_of_permits hfiles,Request.ne_nil_of_permits hfiles⟩
  rintro ⟨hlex,hparse⟩
  refine hfiles.compatible ⟨Request.lexRule,List.mem_cons_self,?_⟩
  exact ⟨Given.isSome_value?_iff.mp hlex,_,List.mem_singleton_self _,
    Given.isSome_value?_iff.mp hparse⟩

namespace OptionRule

variable {os : List OptionRule}

theorem permits_nil : Permits os [] := by
  refine ⟨fun g hg => ?_,List.nodup_nil,?_⟩
  · cases hg
  · rintro ⟨o,_,hname,_⟩
    cases hname

theorem permits_singleton {o : OptionRule} (ho : o ∈ os) {value : OsText} (htakes : o.takes value)
    (hos : ∀ o ∈ os, o.name ∉ o.excludes) : Permits os [⟨o.name,value⟩] := by
  refine ⟨?_,by simp,?_⟩
  · rintro g hg
    rw [List.mem_singleton.mp hg]
    exact ⟨o,ho,rfl,htakes⟩
  · rintro ⟨o',ho',hname,name,hex,hname'⟩
    rw [List.map_singleton, List.mem_singleton] at hname hname'
    exact hos o' ho' (hname ▸ hname' ▸ hex)

end OptionRule

theorem Mode.ofText?_utf8_spelling (m : Mode) : ofText? (utf8 m.spelling) = some m := by
  rw [ofText?, decode?_utf8]
  exact ofSpelling?_spelling m

namespace Session

def modeEntry (s : Session) : Entry :=
  ⟨⟨modeRule.name,utf8 s.mode.spelling⟩,false⟩

def promptEntry (s : Session) : Entry :=
  ⟨⟨promptRule.name,utf8 s.prompt⟩,false⟩

structure Spells (s : Session) (es : List Entry) : Prop where
  allowed : OptionRule.Allows options es
  given : ofGiven (es.map Entry.given) = s

theorem not_conflict (gs : List Given) : ¬OptionRule.Conflict options gs := by
  rintro ⟨o,ho,_,name,hname,_⟩
  rw [options, List.mem_cons, List.mem_singleton] at ho
  rcases ho with rfl | rfl <;> cases hname

theorem taken_entry (s : Session) : ∀ e ∈ [s.modeEntry, s.promptEntry],
    (∃ o ∈ options, o.name = e.given.name ∧ o.takes e.given.value) ∧ e.Readable := by
  refine List.forall_mem_cons.mpr ⟨⟨⟨modeRule,by simp [options],rfl,?_⟩,nofun⟩,?_⟩
  · exact Option.isSome_iff_exists.mpr ⟨_,Mode.ofText?_utf8_spelling s.mode⟩
  refine List.forall_mem_singleton.mpr ⟨⟨promptRule,by simp [options],rfl,?_⟩,nofun⟩
  exact Option.isSome_iff_exists.mpr ⟨_,decode?_utf8 s.prompt⟩

theorem spells_of_perm {s : Session} {es : List Entry} (hes : es.Perm [s.modeEntry, s.promptEntry])
    (hgiven : ofGiven (es.map Entry.given) = s) : s.Spells es := by
  have htaken (e : Entry) (he : e ∈ es) := s.taken_entry e (hes.mem_iff.mp he)
  refine ⟨⟨⟨?_,?_,not_conflict _⟩,fun e he => (htaken e he).2⟩,hgiven⟩
  · rintro g hg
    obtain ⟨e,he,rfl⟩ := List.mem_map.mp hg
    exact (htaken e he).1
  · refine (((hes.map Entry.given).map Given.name).nodup_iff).mpr ?_
    exact (by decide : [modeRule.name, promptRule.name].Nodup)

theorem ofGiven_eq {s : Session} {gs : List Given}
    (hmode : Given.value? gs modeRule.name = some (utf8 s.mode.spelling))
    (hprompt : Given.value? gs promptRule.name = some (utf8 s.prompt)) : ofGiven gs = s := by
  rw [ofGiven, hmode, hprompt, Option.bind_some, Option.bind_some, Mode.ofText?_utf8_spelling,
    decode?_utf8]
  rfl

theorem spells_mode_prompt (s : Session) : s.Spells [s.modeEntry, s.promptEntry] := by
  refine spells_of_perm (.refl _) (ofGiven_eq Given.value?_cons_self ?_)
  have hname : modeRule.name ≠ promptRule.name := by decide
  exact (Given.value?_cons_of_ne hname).trans Given.value?_cons_self

theorem spells_prompt_mode (s : Session) : s.Spells [s.promptEntry, s.modeEntry] := by
  refine spells_of_perm (.swap _ _ _) (ofGiven_eq ?_ Given.value?_cons_self)
  have hname : promptRule.name ≠ modeRule.name := by decide
  exact (Given.value?_cons_of_ne hname).trans Given.value?_cons_self

end Session

namespace Request

def fileEntry (o : OptionRule) (path : OsText) : Entry :=
  ⟨⟨o.name,path⟩,false⟩

def fileEntries (r : Request OsText) : List Entry :=
  r.lex.toList.map (fileEntry lexRule) ++ r.parse.toList.map (fileEntry parseRule)

def line (r : Request OsText) (spell : Session → List Entry) : CommandLine :=
  ⟨r.fileEntries,r.session.map spell,false⟩

theorem permits_file {o : OptionRule} (ho : o ∈ options) {path : OsText} (hpath : path ≠ []) :
    OptionRule.Permits options [⟨o.name,path⟩] := by
  refine OptionRule.permits_singleton ho ?_ (by decide)
  rw [options, List.mem_cons, List.mem_singleton] at ho
  rcases ho with rfl | rfl <;> simpa [lexRule, parseRule, fileRule] using hpath

theorem permits_fileEntries {r : Request OsText} (h : r.WellFormed) :
    OptionRule.Permits options (r.fileEntries.map Entry.given) := by
  obtain ⟨lex,parse,session⟩ := r
  cases lex with
  | none =>
    cases parse with
    | none => exact OptionRule.permits_nil
    | some path =>
      have hrule : parseRule ∈ options := by simp [options]
      exact permits_file hrule (h.parse_ne ∘ congrArg some)
  | some path =>
    cases parse with
    | none =>
      have hrule : lexRule ∈ options := by simp [options]
      exact permits_file hrule (h.lex_ne ∘ congrArg some)
    | some path' => exact absurd ⟨rfl,rfl⟩ h.single

theorem ofGiven_fileEntries {r : Request OsText} (h : r.WellFormed) (session : Option Session) :
    ofGiven (r.fileEntries.map Entry.given) session = ⟨r.lex,r.parse,session⟩ := by
  obtain ⟨lex,parse,_⟩ := r
  cases lex with
  | none => cases parse <;> rfl
  | some path =>
    cases parse with
    | none => rfl
    | some path' => exact absurd ⟨rfl,rfl⟩ h.single

theorem readable_fileEntries (r : Request OsText) : ∀ e ∈ r.fileEntries, e.Readable := by
  rintro e he hapart
  rcases List.mem_append.mp he with he | he <;>
    obtain ⟨_,_,rfl⟩ := List.mem_map.mp he <;> cases hapart

section
variable {r : Request OsText} (h : r.WellFormed) {spell : Session → List Entry}
  (hspell : ∀ s : Session, s.Spells (spell s))
include h hspell

theorem wellFormed_line : (r.line spell).WellFormed := by
  refine ⟨⟨permits_fileEntries h,r.readable_fileEntries⟩,?_⟩
  rintro es hes
  obtain ⟨s,_,rfl⟩ := Option.map_eq_some_iff.mp hes
  exact (hspell s).allowed

theorem request_line : (r.line spell).request = r := by
  have hsession : (r.session.map spell).map (fun es => Session.ofGiven (es.map Entry.given)) =
      r.session := by
    rw [Option.map_map]
    exact (Option.map_congr fun s _ => (hspell s).given).trans Option.map_id'
  rw [CommandLine.request, line, ofGiven_fileEntries h, hsession]

end

def toArguments (r : Request OsText) : List OsText :=
  r.lex.toList.map (utf8 "--lex=" ++ ·) ++ r.parse.toList.map (utf8 "--parse=" ++ ·) ++
    match r.session with
    | none => []
    | some s =>
      [utf8 "repl", utf8 "--mode=" ++ utf8 s.mode.spelling, utf8 "--prompt=" ++ utf8 s.prompt]

def toArgumentsPromptFirst (r : Request OsText) : List OsText :=
  r.lex.toList.map (utf8 "--lex=" ++ ·) ++ r.parse.toList.map (utf8 "--parse=" ++ ·) ++
    match r.session with
    | none => []
    | some s =>
      [utf8 "repl", utf8 "--prompt=" ++ utf8 s.prompt, utf8 "--mode=" ++ utf8 s.mode.spelling]

theorem arguments_line_mode_prompt (r : Request OsText) :
    (r.line fun s => [s.modeEntry, s.promptEntry]).arguments = r.toArguments := by
  obtain ⟨lex,parse,session⟩ := r
  cases lex <;> cases parse <;> cases session <;> rfl

theorem arguments_line_prompt_mode (r : Request OsText) :
    (r.line fun s => [s.promptEntry, s.modeEntry]).arguments = r.toArgumentsPromptFirst := by
  obtain ⟨lex,parse,session⟩ := r
  cases lex <;> cases parse <;> cases session <;> rfl

end Request

structure Documented {ε : Type} (read : List OsText → Except ε (Request OsText)) : Prop where
  reads : ∀ l : CommandLine, l.WellFormed → read l.arguments = .ok l.request
  only : ∀ args r, read args = .ok r → ∃ l : CommandLine, l.WellFormed ∧ l.arguments = args

end LetLang
