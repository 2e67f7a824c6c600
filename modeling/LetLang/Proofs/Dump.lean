import LetLang.Tree.Dump
import LetLang.Proofs.Quoting

namespace LetLang

open Text

namespace Layout

def Delimited {α : Type} (text : α → String) : Prop :=
  ∀ ⦃x y : α⦄ ⦃cs ds : List Char⦄,
    (text x).toList ++ ',' :: cs = (text y).toList ++ ',' :: ds → x = y ∧ cs = ds

theorem delimited_of_mem_all {α : Type} {text : α → String} {all : List α} (hall : ∀ x, x ∈ all)
    (hinj : ∀ x ∈ all, ∀ y ∈ all, text x = text y → x = y)
    (hcomma : ∀ x ∈ all, ',' ∉ (text x).toList) : Delimited text := by
  intro x y cs ds h
  obtain ⟨htext,hrest⟩ := append_cons_inj (hcomma x (hall x)) (hcomma y (hall y)) h
  exact ⟨hinj x (hall x) y (hall y) (String.toList_inj.mp htext),hrest⟩

theorem delimited_toString : Delimited (fun n : Nat => toString n) := by
  intro m n cs ds h
  simp only [Nat.toString_eq_repr, Nat.toList_repr] at h
  have hcomma (k : Nat) : ',' ∉ Nat.toDigits 10 k := by
    intro hmem
    obtain ⟨d,hd,hc⟩ := mem_toDigits (by decide) hmem
    have hall : ∀ d < 10, ',' ≠ Nat.digitChar d := by decide
    exact hall d hd hc
  obtain ⟨hdigits,hrest⟩ := append_cons_inj (hcomma m) (hcomma n) h
  exact ⟨toDigits_inj (by decide) (by decide) hdigits,hrest⟩

theorem delimited_quote : Delimited quote := by
  intro s t cs ds h
  obtain ⟨rfl,hrest⟩ := quote_append_inj h
  exact ⟨rfl,(List.cons.inj hrest).2⟩

def fieldText (f : String × String) : String :=
  f.1 ++ ": " ++ f.2

section
variable {depth : Nat} {name key : String} {cs ds : List Char}

theorem toList_indent_succ (n : Nat) :
    (indent (n + 1)).toList = (indent n).toList ++ [' ', ' ', ' ', ' '] := by
  have hpush : indent (n + 1) = ((((indent n).push ' ').push ' ').push ' ').push ' ' := rfl
  simp [hpush]

theorem toList_entries_cons (t : String) (ts : List String) :
    (entries depth (t :: ts)).toList ++ cs =
      (indent depth).toList ++ (t.toList ++ ',' :: '\n' :: ((entries depth ts).toList ++ cs)) := by
  simp [entries, entry]

theorem toList_record (fs : List (String × String)) :
    (record depth name fs).toList ++ cs =
      name.toList ++ ' ' :: '{' :: '\n' :: ((entries (depth + 1) (fs.map fieldText)).toList ++
        ((indent depth).toList ++ '}' :: cs)) := by
  have hfields : (fs.map fun f => f.1 ++ ": " ++ f.2) = fs.map fieldText := rfl
  simp [record, hfields]

theorem toList_wrapped (text : String) :
    (wrapped depth name text).toList ++ cs =
      name.toList ++ '(' :: '\n' :: ((indent (depth + 1)).toList ++
        (text.toList ++ ',' :: '\n' :: ((indent depth).toList ++ ')' :: cs))) := by
  simp [wrapped, entry]

theorem record_append_inj {fs gs : List (String × String)}
    (h : (record depth name fs).toList ++ cs = (record depth name gs).toList ++ ds) :
    (entries (depth + 1) (fs.map fieldText)).toList ++ ((indent depth).toList ++ '}' :: cs) =
      (entries (depth + 1) (gs.map fieldText)).toList ++ ((indent depth).toList ++ '}' :: ds) := by
  rw [toList_record, toList_record] at h
  simpa using h

theorem close_inj {c : Char}
    (h : (entries (depth + 1) []).toList ++ ((indent depth).toList ++ c :: cs) =
      (entries (depth + 1) []).toList ++ ((indent depth).toList ++ c :: ds)) : cs = ds := by
  simpa using h

theorem close_comma_inj {c : Char}
    (h : (entries (depth + 1) []).toList ++ ((indent depth).toList ++ c :: ',' :: cs) =
      (entries (depth + 1) []).toList ++ ((indent depth).toList ++ c :: ',' :: ds)) : cs = ds :=
  (List.cons.inj (close_inj h)).2

namespace Delimited

variable {α : Type} {text : α → String} (htext : Delimited text) {x y : α}
include htext

theorem entries_append_inj {ts us : List String}
    (h : (entries depth (text x :: ts)).toList ++ cs =
      (entries depth (text y :: us)).toList ++ ds) :
    x = y ∧ (entries depth ts).toList ++ cs = (entries depth us).toList ++ ds := by
  rw [toList_entries_cons, toList_entries_cons] at h
  obtain ⟨rfl,hrest⟩ := htext (List.append_cancel_left h)
  exact ⟨rfl,(List.cons.inj hrest).2⟩

theorem fields_append_inj {fs gs : List (String × String)}
    (h : (entries depth (((key, text x) :: fs).map fieldText)).toList ++ cs =
      (entries depth (((key, text y) :: gs).map fieldText)).toList ++ ds) :
    x = y ∧ (entries depth (fs.map fieldText)).toList ++ cs =
      (entries depth (gs.map fieldText)).toList ++ ds := by
  have hfield : Delimited (fun z => fieldText (key, text z)) := by
    intro z w as bs hzw
    simp only [fieldText, String.toList_append, List.append_assoc] at hzw
    exact htext (List.append_cancel_left (List.append_cancel_left hzw))
  exact hfield.entries_append_inj h

theorem wrapped : Delimited (fun x => Layout.wrapped depth name (text x)) := by
  intro x y cs ds h
  rw [toList_wrapped, toList_wrapped] at h
  simp only [List.append_cancel_left_eq, List.cons.injEq, true_and] at h
  obtain ⟨rfl,hrest⟩ := htext h
  exact ⟨rfl,by simpa using hrest⟩

-- By induction on the first list. Where one list ends, its closing bracket stands a level higher
-- than the next item of the other would.
theorem items_append_inj {xs ys : List α}
    (h : (entries (depth + 1) (xs.map text)).toList ++ ((indent depth).toList ++ ']' :: cs) =
      (entries (depth + 1) (ys.map text)).toList ++ ((indent depth).toList ++ ']' :: ds)) :
    xs = ys ∧ cs = ds := by
  induction xs generalizing ys with
  | nil =>
    cases ys with
    | nil => exact ⟨rfl,close_inj h⟩
    | cons y ys =>
      rw [List.map_cons, toList_entries_cons, toList_indent_succ] at h
      simp [entries] at h
  | cons x xs ih =>
    cases ys with
    | nil =>
      rw [List.map_cons, toList_entries_cons, toList_indent_succ] at h
      simp [entries] at h
    | cons y ys =>
      obtain ⟨rfl,hrest⟩ := htext.entries_append_inj h
      obtain ⟨rfl,hend⟩ := ih hrest
      exact ⟨rfl,hend⟩

theorem sequence : Delimited (fun xs : List α => sequence depth (xs.map text)) := by
  intro xs ys cs ds h
  cases xs with
  | nil =>
    cases ys with
    | nil => simpa [Layout.sequence] using h
    | cons y ys => simp [Layout.sequence] at h
  | cons x xs =>
    cases ys with
    | nil => simp [Layout.sequence] at h
    | cons y ys =>
      have hitems : (entries (depth + 1) ((x :: xs).map text)).toList ++
            ((indent depth).toList ++ ']' :: ',' :: cs) =
          (entries (depth + 1) ((y :: ys).map text)).toList ++
            ((indent depth).toList ++ ']' :: ',' :: ds) := by
        simpa [Layout.sequence] using h
      obtain ⟨hlists,hrest⟩ := htext.items_append_inj hitems
      exact ⟨hlists,(List.cons.inj hrest).2⟩

end Delimited

end

end Layout

open Layout

theorem Keyword.delimited_name : Delimited Keyword.name :=
  delimited_of_mem_all Keyword.mem_all (by decide +kernel) (by decide +kernel)

theorem Operator.delimited_name : Delimited Operator.name :=
  delimited_of_mem_all Operator.mem_all (by decide +kernel) (by decide +kernel)

theorem Punctuation.delimited_name : Delimited Punctuation.name :=
  delimited_of_mem_all Punctuation.mem_all (by decide +kernel) (by decide +kernel)

variable (depth : Nat)

theorem Kind.delimited_dump : Delimited (Kind.dump depth) := by
  intro k l cs ds h
  cases k <;> cases l
  case keyword.keyword k l =>
    obtain ⟨rfl,hrest⟩ := Keyword.delimited_name.wrapped h
    exact ⟨rfl,hrest⟩
  case operator.operator o p =>
    obtain ⟨rfl,hrest⟩ := Operator.delimited_name.wrapped h
    exact ⟨rfl,hrest⟩
  case punctuation.punctuation p q =>
    obtain ⟨rfl,hrest⟩ := Punctuation.delimited_name.wrapped h
    exact ⟨rfl,hrest⟩
  all_goals simp_all [dump, wrapped]

theorem Span.delimited_dump : Delimited (Span.dump depth) := by
  rintro ⟨a,b⟩ ⟨c,d⟩ cs ds h
  obtain ⟨rfl,hstop⟩ := delimited_toString.fields_append_inj (record_append_inj h)
  obtain ⟨rfl,hend⟩ := delimited_toString.fields_append_inj hstop
  exact ⟨rfl,close_comma_inj hend⟩

theorem Token.delimited_dump : Delimited (Token.dump depth) := by
  rintro ⟨k,s,a⟩ ⟨l,t,b⟩ cs ds h
  obtain ⟨rfl,hliteral⟩ :=
    (Kind.delimited_dump (depth + 1)).fields_append_inj (record_append_inj h)
  obtain ⟨rfl,hspan⟩ := delimited_quote.fields_append_inj hliteral
  obtain ⟨rfl,hend⟩ := (Span.delimited_dump (depth + 1)).fields_append_inj hspan
  exact ⟨rfl,close_comma_inj hend⟩

theorem Identifier.delimited_dump : Delimited (Identifier.dump depth) := by
  rintro ⟨t,v⟩ ⟨u,w⟩ cs ds h
  obtain ⟨rfl,hvalue⟩ :=
    (Token.delimited_dump (depth + 1)).fields_append_inj (record_append_inj h)
  obtain ⟨rfl,hend⟩ := delimited_quote.fields_append_inj hvalue
  exact ⟨rfl,close_comma_inj hend⟩

theorem Expression.delimited_dump : Delimited (Expression.dump depth) := by
  rintro ⟨i⟩ ⟨j⟩ cs ds h
  obtain ⟨rfl,hrest⟩ := (Identifier.delimited_dump (depth + 1)).wrapped h
  exact ⟨rfl,hrest⟩

theorem delimited_dumpOptional : Delimited (dumpOptional depth) := by
  intro x y cs ds h
  cases x with
  | none =>
    cases y with
    | none => simpa [dumpOptional] using h
    | some e => simp [dumpOptional, wrapped] at h
  | some e =>
    cases y with
    | none => simp [dumpOptional, wrapped] at h
    | some f =>
      obtain ⟨rfl,hrest⟩ := (Expression.delimited_dump (depth + 1)).wrapped h
      exact ⟨rfl,hrest⟩

theorem LetStatement.delimited_dump : Delimited (LetStatement.dump depth) := by
  rintro ⟨t,n,v,a⟩ ⟨u,m,w,b⟩ cs ds h
  obtain ⟨rfl,hname⟩ :=
    (Token.delimited_dump (depth + 1)).fields_append_inj (record_append_inj h)
  obtain ⟨rfl,hvalue⟩ := (Identifier.delimited_dump (depth + 1)).fields_append_inj hname
  obtain ⟨rfl,hspan⟩ := (delimited_dumpOptional (depth + 1)).fields_append_inj hvalue
  obtain ⟨rfl,hend⟩ := (Span.delimited_dump (depth + 1)).fields_append_inj hspan
  exact ⟨rfl,close_comma_inj hend⟩

theorem ReturnStatement.delimited_dump : Delimited (ReturnStatement.dump depth) := by
  rintro ⟨t,v,a⟩ ⟨u,w,b⟩ cs ds h
  obtain ⟨rfl,hvalue⟩ :=
    (Token.delimited_dump (depth + 1)).fields_append_inj (record_append_inj h)
  obtain ⟨rfl,hspan⟩ := (delimited_dumpOptional (depth + 1)).fields_append_inj hvalue
  obtain ⟨rfl,hend⟩ := (Span.delimited_dump (depth + 1)).fields_append_inj hspan
  exact ⟨rfl,close_comma_inj hend⟩

theorem Statement.delimited_dump : Delimited (Statement.dump depth) := by
  intro x y cs ds h
  cases x with
  | letStatement s =>
    cases y with
    | letStatement t =>
      obtain ⟨rfl,hrest⟩ := (LetStatement.delimited_dump (depth + 1)).wrapped h
      exact ⟨rfl,hrest⟩
    | returnStatement t => simp [dump, wrapped] at h
  | returnStatement s =>
    cases y with
    | letStatement t => simp [dump, wrapped] at h
    | returnStatement t =>
      obtain ⟨rfl,hrest⟩ := (ReturnStatement.delimited_dump (depth + 1)).wrapped h
      exact ⟨rfl,hrest⟩

theorem Program.dump_append_inj {p q : Program} {cs ds : List Char}
    (h : p.dump.toList ++ cs = q.dump.toList ++ ds) : p = q ∧ cs = ds := by
  obtain ⟨xs⟩ := p
  obtain ⟨ys⟩ := q
  obtain ⟨rfl,hend⟩ :=
    (Statement.delimited_dump 2).sequence.fields_append_inj (record_append_inj h)
  exact ⟨rfl,close_inj hend⟩

theorem Program.dump_eq_dump_iff (p q : Program) :
    (p.dump = q.dump ↔ p = q) ∧
      ∀ s t : String, p.dump ++ "\n" ++ s = q.dump ++ "\n" ++ t ↔ p = q ∧ s = t := by
  refine ⟨⟨?_,congrArg dump⟩,fun s t => ⟨?_,?_⟩⟩
  · intro h
    have hlist : p.dump.toList ++ [] = q.dump.toList ++ [] := by rw [h]
    exact (dump_append_inj hlist).1
  · intro h
    have hlist := congrArg String.toList h
    simp only [String.toList_append, List.append_assoc] at hlist
    obtain ⟨rfl,hrest⟩ := dump_append_inj hlist
    exact ⟨rfl,String.toList_inj.mp (List.append_cancel_left hrest)⟩
  · rintro ⟨rfl,rfl⟩
    rfl

end LetLang
