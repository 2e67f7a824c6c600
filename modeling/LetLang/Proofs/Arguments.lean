import LetLang.Proofs.CommandLine
import Mathlib.Data.List.Nodup
import Mathlib.Data.List.TakeWhile

namespace LetLang

open Argument (dash equals divide separate attach Standalone)

namespace Argument

theorem ofText_divide : ofText divide = divider := rfl

theorem ofText_separate_of_ne_nil {bs : OsText} (h : bs ≠ []) :
    ofText (separate bs) = long (bs.takeWhile (· != equals)) (attachedTo bs) := by
  obtain ⟨b,bs,rfl⟩ := List.exists_cons_of_ne_nil h
  rfl

theorem ofText_cases (arg : OsText) :
    (Standalone arg ∧ ofText arg = word) ∨ (arg = divide ∧ ofText arg = divider) ∨
      (¬Standalone arg ∧ ∃ b, ofText arg = short b) ∨
        ∃ bs, arg = separate bs ∧
          ofText arg = long (bs.takeWhile (· != equals)) (attachedTo bs) := by
  match arg with
  | [] => exact .inl ⟨nofun,rfl⟩
  | [a] => exact .inl ⟨fun h => congrArg (fun b => [b]) (Option.some.inj h),rfl⟩
  | a :: b :: bs =>
    rcases eq_or_ne a dash with rfl | ha
    · rcases eq_or_ne b dash with rfl | hb
      · cases bs with
        | nil => exact .inr (.inl ⟨rfl,rfl⟩)
        | cons c bs => exact .inr (.inr (.inr ⟨c :: bs,rfl,rfl⟩))
      · refine .inr (.inr (.inl ⟨fun h => ?_,b,?_⟩))
        · exact List.cons_ne_nil _ _ (List.cons.inj (h rfl)).2
        · simp [ofText, hb]
    · refine .inl ⟨fun h => absurd (Option.some.inj h) ha,?_⟩
      simp [ofText, ha]

theorem ofText_eq_word_iff {arg : OsText} : ofText arg = word ↔ Standalone arg := by
  rcases ofText_cases arg with ⟨hs,h⟩ | ⟨rfl,h⟩ | ⟨hs,b,h⟩ | ⟨bs,rfl,h⟩
  · simp only [h, hs]
  · simp only [h, reduceCtorEq, false_iff]
    exact not_standalone_separate []
  · simp only [h, hs, reduceCtorEq]
  · simp only [h, reduceCtorEq, false_iff]
    exact not_standalone_separate bs

theorem eq_divide_of_ofText {arg : OsText} (h : ofText arg = divider) : arg = divide := by
  rcases ofText_cases arg with ⟨_,h'⟩ | ⟨rfl,_⟩ | ⟨_,b,h'⟩ | ⟨bs,rfl,h'⟩
  · cases h.symm.trans h'
  · rfl
  · cases h.symm.trans h'
  · cases h.symm.trans h'

section
variable {name : OsText} (h : equals ∉ name)
include h

theorem ne_equals_of_mem : ∀ b ∈ name, (b != equals) = true :=
  fun _ hb => bne_iff_ne.mpr fun heq => h (heq ▸ hb)

theorem ofText_separate (hne : name ≠ []) : ofText (separate name) = long name none := by
  have hall := ne_equals_of_mem h
  rw [ofText_separate_of_ne_nil hne, attachedTo, List.takeWhile_eq_self_iff.mpr hall,
    List.dropWhile_eq_nil_iff.mpr hall]

theorem ofText_attach (value : OsText) : ofText (attach name value) = long name (some value) := by
  have hall := ne_equals_of_mem h
  have htake : (name ++ equals :: value).takeWhile (· != equals) = name := by
    rw [List.takeWhile_append_of_pos hall]
    simp
  have hdrop : (name ++ equals :: value).dropWhile (· != equals) = equals :: value := by
    rw [List.dropWhile_append_of_pos hall]
    simp
  have hattach : attach name value = separate (name ++ equals :: value) := rfl
  rw [hattach, ofText_separate_of_ne_nil (by simp), attachedTo, htake, hdrop]

end

theorem eq_attachedTo_elim (bs : OsText) :
    bs = (attachedTo bs).elim (bs.takeWhile (· != equals))
      (bs.takeWhile (· != equals) ++ equals :: ·) := by
  have hcut := List.takeWhile_append_dropWhile (p := (· != equals)) (l := bs)
  rw [attachedTo]
  cases hd : bs.dropWhile (· != equals) with
  | nil =>
    rw [hd, List.append_nil] at hcut
    exact hcut.symm
  | cons b value =>
    have hb : b = equals := by
      have hhead := List.head?_dropWhile_not (· != equals) bs
      simpa [hd] using hhead
    rw [hd, hb] at hcut
    exact hcut.symm

theorem eq_of_ofText_eq_long {arg name : OsText} {attached : Option OsText}
    (h : ofText arg = long name attached) :
    arg = attached.elim (separate name) (attach name) := by
  rcases ofText_cases arg with ⟨_,h'⟩ | ⟨_,h'⟩ | ⟨_,b,h'⟩ | ⟨bs,rfl,h'⟩
  · cases h.symm.trans h'
  · cases h.symm.trans h'
  · cases h.symm.trans h'
  cases h.symm.trans h'
  have hbs := eq_attachedTo_elim bs
  cases hat : attachedTo bs with
  | none =>
    rw [hat] at hbs
    exact congrArg separate hbs
  | some value =>
    rw [hat] at hbs
    exact congrArg separate hbs

end Argument

namespace OptionRule

structure Legible (os : List OptionRule) : Prop where
  distinct : (os.map OptionRule.name).Nodup
  named : ∀ o ∈ os, o.name ≠ [] ∧ equals ∉ o.name

theorem take_eq_ok_iff {o : OptionRule} {gs gs' : List Given} {value : OsText} :
    o.take gs value = .ok gs' ↔
      o.name ∉ gs.map Given.name ∧ o.takes value ∧ gs' = gs ++ [⟨o.name,value⟩] := by
  rw [take]
  by_cases hname : o.name ∈ gs.map Given.name
  · simp [hname]
  · by_cases htakes : o.takes value <;> simp [hname, htakes, eq_comm (a := gs')]

inductive Takes (os : List OptionRule) : List Given → List Entry → List Given → Prop
  | nil (gs : List Given) : Takes os gs [] gs
  | cons {o : OptionRule} {e : Entry} {gs gs' gs'' : List Given} {es : List Entry} (ho : o ∈ os)
      (hname : o.name = e.given.name) (hread : e.Readable)
      (htake : o.take gs e.given.value = .ok gs') (h : Takes os gs' es gs'') :
      Takes os gs (e :: es) gs''

section
variable {os : List OptionRule} {gs gs' : List Given} {es : List Entry}

theorem Takes.allowed (h : Takes os gs es gs') :
    gs' = gs ++ es.map Entry.given ∧ (∀ e ∈ es, e.Readable) ∧
      (∀ e ∈ es, ∃ o ∈ os, o.name = e.given.name ∧ o.takes e.given.value) ∧
      ((gs.map Given.name).Nodup → (gs'.map Given.name).Nodup) := by
  induction h with
  | nil gs => simp
  | @cons o e gs gs' gs'' es ho hname hread htake h ih =>
    obtain ⟨rfl,hreads,htaken,honce⟩ := ih
    obtain ⟨hfresh,htakes,rfl⟩ := take_eq_ok_iff.mp htake
    refine ⟨?_,List.forall_mem_cons.mpr ⟨hread,hreads⟩,
      List.forall_mem_cons.mpr ⟨⟨o,ho,hname,htakes⟩,htaken⟩,fun hgs => honce ?_⟩
    · simp [hname]
    · rw [List.map_append, List.nodup_append']
      exact ⟨hgs,by simp,by simpa using hfresh⟩

theorem takes_of_allowed (hread : ∀ e ∈ es, e.Readable)
    (htaken : ∀ e ∈ es, ∃ o ∈ os, o.name = e.given.name ∧ o.takes e.given.value)
    (honce : ((gs ++ es.map Entry.given).map Given.name).Nodup) :
    Takes os gs es (gs ++ es.map Entry.given) := by
  induction es generalizing gs with
  | nil =>
    rw [List.map_nil, List.append_nil]
    exact .nil gs
  | cons e es ih =>
    obtain ⟨he,hread⟩ := List.forall_mem_cons.mp hread
    obtain ⟨⟨o,ho,hname,htakes⟩,htaken⟩ := List.forall_mem_cons.mp htaken
    have hfresh : o.name ∉ gs.map Given.name := by
      rw [List.map_append, List.nodup_append'] at honce
      exact fun hmem => honce.2.2 (hname ▸ hmem) (by simp)
    have hgs : gs ++ (e :: es).map Entry.given = (gs ++ [e.given]) ++ es.map Entry.given := by simp
    rw [hgs] at honce ⊢
    refine .cons ho hname he (take_eq_ok_iff.mpr ⟨hfresh,htakes,?_⟩) (ih hread htaken honce)
    rw [hname]

theorem allows_iff_takes :
    Allows os es ↔ Takes os [] es (es.map Entry.given) ∧ ¬Conflict os (es.map Entry.given) := by
  constructor
  · rintro ⟨⟨htaken,honce,hcompatible⟩,hread⟩
    refine ⟨@takes_of_allowed os [] es hread (fun e he => ?_) honce,hcompatible⟩
    exact htaken _ (List.mem_map_of_mem he)
  · rintro ⟨htakes,hcompatible⟩
    obtain ⟨_,hread,htaken,honce⟩ := htakes.allowed
    exact ⟨⟨List.forall_mem_map.mpr htaken,honce List.nodup_nil,hcompatible⟩,hread⟩

end

end OptionRule

namespace Reading

variable {r : Reading} {gs : List Given} {o : OptionRule}

theorem receive?_of_settle (h : r.settle = .ok gs) (value : OsText) : r.receive? value = none := by
  obtain ⟨settled,pending⟩ := r
  match pending with
  | none => rfl
  | some (_, none) => cases h
  | some (_, some _) => rfl

theorem option_of_settle (h : r.settle = .ok gs) (o : OptionRule) (attached : Option OsText) :
    r.option o attached = (ofSettled gs).option o attached := by
  simp only [option, h]
  rfl

theorem answer_of_settle (h : r.settle = .ok gs) (halt : Halt) : r.answer halt = halt := by
  simp only [answer, h]

end Reading

namespace Level

variable {α : Type} {l : Level α} {r : Reading} {gs gs' : List Given} {m : Matches α}
  {o : OptionRule} {args rest : List OsText}

theorem finish_ofSettled_eq_ok_iff {c : Option α} :
    l.finish (.ofSettled gs) c = .ok m ↔ ¬OptionRule.Conflict l.options gs ∧ m = ⟨gs,c⟩ := by
  have hsettle : (Reading.ofSettled gs).settle = .ok gs := rfl
  simp only [finish, hsettle]
  by_cases h : OptionRule.Conflict l.options gs <;> simp [h, eq_comm (a := m)]

-- A value is settled only when the next option comes, but it is read on as if settled at once.
theorem readFrom_of_settle (h : r.settle = .ok gs) (args : List OsText) :
    l.readFrom r args = l.readFrom (.ofSettled gs) args := by
  have hsettled : (Reading.ofSettled gs).settle = .ok gs := rfl
  have hfinish (c : Option α) : l.finish r c = l.finish (.ofSettled gs) c := by
    simp only [finish, h, hsettled]
  cases args with
  | nil => exact hfinish none
  | cons arg rest =>
    simp only [readFrom, hfinish, flagHalt, longHalt, Reading.answer_of_settle h,
      Reading.answer_of_settle hsettled, Reading.option_of_settle h, Reading.receive?_of_settle h,
      Reading.receive?_of_settle hsettled]

theorem readFrom_ne_ok_of_settle {e : Refusal} (h : r.settle = .error e)
    (hreceive : ∀ value, r.receive? value = none) : l.readFrom r args ≠ .ok m := by
  have hfinish (c : Option α) : l.finish r c = .error (.refused e) := by
    simp only [finish, h]
  have hoption (o : OptionRule) (attached : Option OsText) :
      r.option o attached = .error e := by
    simp only [Reading.option, h]
  intro hread
  cases args with
  | nil =>
    rw [readFrom, hfinish] at hread
    cases hread
  | cons arg rest =>
    simp only [readFrom, hfinish, hoption, hreceive] at hread
    repeat' split at hread
    all_goals cases hread

theorem exists_value_of_await (h : l.readFrom (.await gs o) args = .ok m) :
    ∃ value rest gs', args = value :: rest ∧ Standalone value ∧ o.take gs value = .ok gs' ∧
      l.readFrom (.ofSettled gs') rest = .ok m := by
  cases args with
  | nil => cases h
  | cons arg rest =>
    cases ha : Argument.ofText arg with
    | divider =>
      simp only [readFrom, ha] at h
      split at h <;> cases h
    | short flag =>
      simp only [readFrom, ha] at h
      cases h
    | long name attached =>
      simp only [readFrom, ha] at h
      split at h <;> cases h
    | word =>
      have hreceive : (Reading.await gs o).receive? arg = some ⟨gs,some (o, some arg)⟩ := rfl
      simp only [readFrom, ha, hreceive] at h
      have hsettle : (⟨gs,some (o, some arg)⟩ : Reading).settle = o.take gs arg := rfl
      cases htake : o.take gs arg with
      | error e => exact absurd h (readFrom_ne_ok_of_settle (hsettle.trans htake) (fun _ => rfl))
      | ok gs' =>
        rw [readFrom_of_settle (hsettle.trans htake)] at h
        exact ⟨arg,rest,gs',rfl,Argument.ofText_eq_word_iff.mp ha,htake,h⟩

theorem entry_of_option {arg : OsText} {attached : Option OsText}
    (ha : Argument.ofText arg = .long o.name attached)
    (hr : (Reading.ofSettled gs).option o attached = .ok r) (h : l.readFrom r rest = .ok m) :
    ∃ (e : Entry) (gs' : List Given) (rest' : List OsText), o.name = e.given.name ∧
      e.Readable ∧ o.take gs e.given.value = .ok gs' ∧ arg :: rest = e.arguments ++ rest' ∧
      l.readFrom (.ofSettled gs') rest' = .ok m := by
  have harg := Argument.eq_of_ofText_eq_long ha
  cases attached with
  | none =>
    cases hr
    obtain ⟨value,rest',gs',rfl,hvalue,htake,h⟩ := exists_value_of_await h
    refine ⟨⟨⟨o.name,value⟩,true⟩,gs',rest',rfl,fun _ => hvalue,htake,?_,h⟩
    rw [harg]
    rfl
  | some value =>
    simp only [Reading.option, Reading.settle, Reading.ofSettled] at hr
    cases htake : o.take gs value with
    | error e =>
      rw [htake] at hr
      cases hr
    | ok gs' =>
      rw [htake] at hr
      cases hr
      refine ⟨⟨⟨o.name,value⟩,false⟩,gs',rest,rfl,nofun,htake,?_,h⟩
      rw [harg]
      rfl

inductive Tail (l : Level α) : List OsText → Option α → Prop
  | done : Tail l [] none
  | divided : Tail l [divide] none
  | command {name : OsText} {rest : List OsText} {c : α} (hname : Standalone name)
      (h : l.command name rest = .ok c) : Tail l (name :: rest) (some c)

theorem Tail.readFrom {c : Option α} (h : l.Tail rest c) :
    l.readFrom (.ofSettled gs) rest = l.finish (.ofSettled gs) c := by
  cases h with
  | done => rfl
  | divided => simp only [Level.readFrom, Argument.ofText_divide]
  | command hname h =>
    have hreceive (value : OsText) : (Reading.ofSettled gs).receive? value = none := rfl
    simp only [Level.readFrom, Argument.ofText_eq_word_iff.mpr hname, hreceive, h]

section
variable (hos : OptionRule.Legible l.options)
include hos

theorem option?_eq_some_iff {name : OsText} :
    l.option? name = some o ↔ o ∈ l.options ∧ o.name = name := by
  constructor
  · intro h
    exact ⟨List.mem_of_find?_eq_some h,by simpa using List.find?_some h⟩
  · rintro ⟨ho,rfl⟩
    cases hfind : l.option? o.name with
    | none => exact absurd (List.find?_eq_none.mp hfind o ho) (by simp)
    | some o' =>
      have hname : o'.name = o.name := by simpa using List.find?_some hfind
      rw [List.inj_on_of_nodup_map hos.distinct (List.mem_of_find?_eq_some hfind) ho hname]

theorem readFrom_entry {e : Entry} (ho : o ∈ l.options) (hname : o.name = e.given.name)
    (hread : e.Readable) (htake : o.take gs e.given.value = .ok gs') :
    l.readFrom (.ofSettled gs) (e.arguments ++ rest) = l.readFrom (.ofSettled gs') rest := by
  obtain ⟨⟨name,value⟩,apart⟩ := e
  subst hname
  have hoption := (option?_eq_some_iff hos).mpr ⟨ho,rfl⟩
  obtain ⟨hne,hequals⟩ := hos.named o ho
  cases apart with
  | false =>
    have hgiven : (Reading.ofSettled gs).option o (some value) = .ok (.ofSettled gs') :=
      congrArg (Except.map Reading.ofSettled) htake
    rw [Entry.arguments_attached, List.singleton_append]
    simp only [readFrom, Argument.ofText_attach hequals, hoption, hgiven]
  | true =>
    have hawait : (Reading.ofSettled gs).option o none = .ok (.await gs o) := rfl
    have hreceive : (Reading.await gs o).receive? value = some ⟨gs,some (o, some value)⟩ := rfl
    have hsettle : (⟨gs,some (o, some value)⟩ : Reading).settle = .ok gs' := htake
    rw [Entry.arguments_apart, ← readFrom_of_settle hsettle]
    simp only [List.cons_append, List.nil_append, readFrom, Argument.ofText_separate hequals hne,
      hoption, hawait, Argument.ofText_eq_word_iff.mpr (hread rfl), hreceive]

theorem readFrom_entries {es : List Entry} (h : OptionRule.Takes l.options gs es gs') :
    l.readFrom (.ofSettled gs) (es.flatMap Entry.arguments ++ rest) =
      l.readFrom (.ofSettled gs') rest := by
  induction h with
  | nil gs => rfl
  | cons ho hname hread htake h ih =>
    rw [List.flatMap_cons, List.append_assoc, readFrom_entry hos ho hname hread htake, ih]

theorem tail_or_entry (h : l.readFrom (.ofSettled gs) args = .ok m) :
    (∃ c, l.Tail args c ∧ l.finish (.ofSettled gs) c = .ok m) ∨
    ∃ o ∈ l.options, ∃ (e : Entry) (gs' : List Given) (rest : List OsText),
      o.name = e.given.name ∧ e.Readable ∧ o.take gs e.given.value = .ok gs' ∧
      args = e.arguments ++ rest ∧ l.readFrom (.ofSettled gs') rest = .ok m := by
  cases args with
  | nil => exact .inl ⟨none,.done,h⟩
  | cons arg rest =>
    cases ha : Argument.ofText arg with
    | divider =>
      simp only [readFrom, ha] at h
      cases rest with
      | nil =>
        rw [Argument.eq_divide_of_ofText ha]
        exact .inl ⟨none,.divided,h⟩
      | cons next rest => cases h
    | short flag =>
      simp only [readFrom, ha] at h
      cases h
    | long name attached =>
      simp only [readFrom, ha] at h
      split at h
      · cases h
      rename_i o hoption
      obtain ⟨ho,rfl⟩ := (option?_eq_some_iff hos).mp hoption
      split at h
      · cases h
      rename_i r hr
      exact .inr ⟨o,ho,entry_of_option ha hr h⟩
    | word =>
      have hreceive : (Reading.ofSettled gs).receive? arg = none := rfl
      simp only [readFrom, ha, hreceive] at h
      split at h
      · cases h
      rename_i c hcommand
      exact .inl ⟨some c,.command (Argument.ofText_eq_word_iff.mp ha) hcommand,h⟩

-- By strong induction on the arguments, since a value that stands apart takes two of them.
theorem exists_entries (h : l.readFrom (.ofSettled gs) args = .ok m) :
    ∃ es rest gs' c, OptionRule.Takes l.options gs es gs' ∧ l.Tail rest c ∧
      args = es.flatMap Entry.arguments ++ rest ∧ l.finish (.ofSettled gs') c = .ok m := by
  induction hn : args.length using Nat.strong_induction_on generalizing gs args with
  | _ n ih =>
    rcases tail_or_entry hos h with ⟨c,htail,hfinish⟩ |
      ⟨o,ho,e,gs',rest,hname,hread,htake,rfl,hrest⟩
    · exact ⟨[],args,gs,c,.nil gs,htail,rfl,hfinish⟩
    · have hlt : rest.length < n := by
        rw [← hn, List.length_append]
        exact Nat.lt_add_of_pos_left e.length_arguments_pos
      obtain ⟨es,rest,gs'',c,htakes,htail,rfl,hfinish⟩ := ih _ hlt hrest rfl
      refine ⟨e :: es,rest,gs'',c,.cons ho hname hread htake htakes,htail,?_,hfinish⟩
      rw [List.flatMap_cons, List.append_assoc]

theorem read_eq_ok_iff :
    l.read args = .ok m ↔ ∃ es rest, OptionRule.Allows l.options es ∧ l.Tail rest m.command ∧
      args = es.flatMap Entry.arguments ++ rest ∧ m.given = es.map Entry.given := by
  constructor
  · intro h
    obtain ⟨es,rest,gs,c,htakes,htail,rfl,hfinish⟩ := exists_entries hos h
    obtain ⟨hcompatible,rfl⟩ := finish_ofSettled_eq_ok_iff.mp hfinish
    have hgs : gs = es.map Entry.given := htakes.allowed.1
    subst hgs
    exact ⟨es,rest,OptionRule.allows_iff_takes.mpr ⟨htakes,hcompatible⟩,htail,rfl,rfl⟩
  · rintro ⟨es,rest,hallows,htail,rfl,hgiven⟩
    obtain ⟨htakes,hcompatible⟩ := OptionRule.allows_iff_takes.mp hallows
    rw [read, readFrom_entries hos htakes, htail.readFrom]
    refine finish_ofSettled_eq_ok_iff.mpr ⟨hcompatible,?_⟩
    rw [← hgiven]

end

end Level

end LetLang
