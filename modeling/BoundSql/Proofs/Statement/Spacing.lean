import BoundSql.Table.Query
import BoundSql.Proofs.Statement.Numbering

namespace BoundSql

/-- A text that can stand behind a literal. -/
def Separates (s : String) : Prop :=
  Plain s ∧ (s.toList.head?.any fun c => !c.isDigit) = true

instance (s : String) : Decidable (Plain s) := inferInstanceAs (Decidable ('$' ∉ s.toList))

instance (s : String) : Decidable (Separates s) := inferInstanceAs (Decidable (_ ∧ _))

theorem plain_append {s t : String} : Plain (s ++ t) ↔ Plain s ∧ Plain t := by
  simp [Plain]

theorem Separates.append {s t : String} (hs : Separates s) (ht : Plain t) : Separates (s ++ t) := by
  refine ⟨plain_append.mpr ⟨hs.1, ht⟩, ?_⟩
  have hany := hs.2
  rw [String.toList_append, List.head?_append]
  cases hhead : s.toList.head? with
  | none => simp [hhead] at hany
  | some c =>
    rw [hhead] at hany
    exact hany

variable {P : String → Prop}

namespace Fragment

/-- A fragment that can stand behind a literal. -/
structure Follows (P : String → Prop) (f : Fragment) : Prop where
  spaced : f.Spaced P
  aside : f.Aside

theorem Spaced.mono {Q : String → Prop} (h : ∀ s, P s → Q s) {f : Fragment} (hf : f.Spaced P) :
    f.Spaced Q := by
  induction f with
  | nil => trivial
  | cons piece f ih =>
    cases piece with
    | text s => exact ⟨h s hf.1, ih hf.2⟩
    | value v => exact ⟨hf.1, ih hf.2⟩

theorem follows_nil : Follows P [] := ⟨trivial, nofun⟩

theorem first?_append (f g : Fragment) : first? (f ++ g) = (first? f).or (first? g) := by
  induction f with
  | nil => rfl
  | cons piece f ih =>
    cases piece with
    | text s => rw [List.cons_append, first?, first?, ih, Option.or_assoc]
    | value v => rfl

theorem Aside.append {f g : Fragment} (hf : f.Aside) (hg : g.Aside) : Aside (f ++ g) := by
  intro c hc
  rw [first?_append] at hc
  cases hfirst : f.first? with
  | none =>
    rw [hfirst] at hc
    exact hg c hc
  | some d =>
    rw [hfirst] at hc
    exact hf c (hfirst ▸ hc)

theorem Spaced.append {f g : Fragment} (hf : f.Spaced P) (hg : g.Follows P) :
    Spaced P (f ++ g) := by
  induction f with
  | nil => exact hg.spaced
  | cons piece f ih =>
    cases piece with
    | text s => exact ⟨hf.1, ih hf.2⟩
    | value v => exact ⟨hf.1.append hg.aside, ih hf.2⟩

theorem Follows.append {f g : Fragment} (hf : f.Follows P) (hg : g.Follows P) :
    Follows P (f ++ g) :=
  ⟨hf.spaced.append hg, hf.aside.append hg.aside⟩

theorem follows_flatMap {α : Type} {as : List α} {fragment : α → Fragment}
    (h : ∀ a ∈ as, (fragment a).Follows P) : Follows P (as.flatMap fragment) := by
  induction as with
  | nil => exact follows_nil
  | cons a as ih =>
    obtain ⟨ha, has⟩ := List.forall_mem_cons.mp h
    exact ha.append (ih has)

end Fragment

/-- A kind of texts without dollar signs that names can be asked to be of. What the writers put
between names is of every such kind. -/
class TextKind (P : String → Prop) : Prop where
  plain {s : String} : P s → Plain s
  of_separates {s : String} : Separates s → P s
  empty : P ""
  append {s t : String} : P s → P t → P (s ++ t)

instance : TextKind Plain where
  plain := id
  of_separates := And.left
  empty := by decide
  append hs ht := plain_append.mpr ⟨hs, ht⟩

variable [TextKind P]

namespace Fragment

theorem Spaced.plain {f : Fragment} (h : f.Spaced P) : f.Spaced Plain :=
  h.mono fun _ => TextKind.plain

theorem follows_text {s : String} {f : Fragment} (hs : Separates s) (hf : f.Spaced P) :
    Follows P (.text s :: f) := by
  refine ⟨⟨TextKind.of_separates hs, hf⟩, ?_⟩
  intro c hc
  have hany := hs.2
  cases hhead : s.toList.head? with
  | none => simp [hhead] at hany
  | some d =>
    simp only [hhead, Option.any_some] at hany
    simp only [first?, hhead, Option.some_or, Option.mem_some_iff] at hc
    subst hc
    simpa using hany

theorem follows_single {s : String} (hs : Separates s) : Follows P [.text s] :=
  follows_text hs trivial

theorem spaced_join {separator : String} (hs : Separates separator) {fs : List Fragment}
    (h : ∀ f ∈ fs, f.Spaced P) : Spaced P (join separator fs) := by
  cases fs with
  | nil => trivial
  | cons f fs =>
    obtain ⟨hf, hfs⟩ := List.forall_mem_cons.mp h
    exact hf.append (follows_flatMap fun g hg => follows_text hs (hfs g hg))

/-- What closes a group or the call of a function. -/
theorem follows_closing : Follows P [.text ")"] := follows_single (by decide)

theorem spaced_group {separator : String} (hs : Separates separator) {fs : List Fragment}
    (h : ∀ f ∈ fs, f.Spaced P) : Spaced P (group separator fs) := by
  match fs, h with
  | [], _ => trivial
  | [f], h => exact h f List.mem_cons_self
  | f :: g :: fs, h =>
    exact (follows_text (s := "(") (by decide) ((spaced_join hs h).append follows_closing)).spaced

theorem spaced_call (f : SqlFunction) {g : Fragment} (hg : g.Spaced P) :
    Spaced P (.text (f.name ++ "(") :: g ++ [.text ")"]) := by
  have hopening : Separates (f.name ++ "(") := by cases f <;> decide
  exact (follows_text hopening hg).spaced.append follows_closing

theorem spaced_coalesce {f g : Fragment} (hf : f.Spaced P) (hg : g.Spaced P) :
    Spaced P (.text "COALESCE(" :: f ++ .text ", " :: g ++ [.text ")"]) := by
  have hopening := follows_text (s := "COALESCE(") (by decide) hf
  have hfallback := follows_text (s := ", ") (by decide) hg
  exact (hopening.spaced.append hfallback).append follows_closing

end Fragment

open Fragment

theorem Arg.spaced_fragment (a : Arg) : a.fragment.Spaced P := by
  induction a with
  | value v => exact ⟨nofun, trivial⟩
  | instruction i =>
    have hword : Separates i.sql := by cases i <;> decide
    exact (follows_single hword).spaced
  | function f inner ih => exact spaced_call f ih
  | coalesce arg fallback iha ihf => exact spaced_coalesce iha ihf

namespace Column

def names (c : Column) : List String := [c.table, c.name]

variable {c : Column}

theorem spaced_qualified (h : ∀ s ∈ c.names, P s) : c.qualified.Spaced P := by
  induction c with
  | named table name =>
    have htable : P table := h table List.mem_cons_self
    have hname : P name := h name (List.mem_cons_of_mem _ List.mem_cons_self)
    exact ⟨htable, TextKind.of_separates (by decide), hname, trivial⟩
  | function f inner ih => exact spaced_call f (ih h)
  | coalesce inner fallback ih => exact spaced_coalesce (ih h) fallback.spaced_fragment

theorem spaced_unqualified (h : ∀ s ∈ c.names, P s) : c.unqualified.Spaced P := by
  induction c with
  | named table name => exact ⟨h name (List.mem_cons_of_mem _ List.mem_cons_self), trivial⟩
  | function f inner ih => exact spaced_call f (ih h)
  | coalesce inner fallback ih => exact spaced_coalesce (ih h) fallback.spaced_fragment

end Column

namespace Columns

variable {cs : Columns} (h : ∀ s ∈ cs.flatMap Column.names, P s)

include h

theorem spaced_qualified : (Columns.qualified cs).Spaced P := by
  refine spaced_join (by decide) (List.forall_mem_map.mpr fun c hc => ?_)
  exact c.spaced_qualified fun s hs => h s (List.mem_flatMap.mpr ⟨c, hc, hs⟩)

theorem spaced_unqualified : (Columns.unqualified cs).Spaced P := by
  refine spaced_join (by decide) (List.forall_mem_map.mpr fun c hc => ?_)
  exact c.spaced_unqualified fun s hs => h s (List.mem_flatMap.mpr ⟨c, hc, hs⟩)

end Columns

section Operation

variable {c : Column} (hc : ∀ s ∈ c.names, P s) (a : Arg)

include hc

theorem TextOperation.spaced_fragment (op : TextOperation) : (op.fragment c a).Spaced P := by
  have hinfix : Separates op.infixText := by cases op <;> decide
  have hsuffix : Follows P [.text op.suffix] := by
    cases op with
    | equal | notEqual | equalIgnoreCase | notEqualIgnoreCase =>
      -- an empty suffix separates nothing, but nothing is written that could be a digit
      exact ⟨⟨TextKind.empty, trivial⟩, nofun⟩
    | startsWith | contains | startsWithIgnoreCase | containsIgnoreCase =>
      exact follows_single (by decide)
  unfold fragment
  split
  next =>
    have hlower := Column.spaced_qualified (c := .function .lower c) hc
    exact (hlower.append (follows_text hinfix (Arg.spaced_fragment _))).append hsuffix
  next =>
    have hplain := Column.spaced_qualified hc
    exact (hplain.append (follows_text hinfix a.spaced_fragment)).append hsuffix

theorem Operation.spaced_fragment (op : Operation) : (op.fragment c a).Spaced P := by
  have hcomparison {symbol : String} (hs : Separates (" " ++ symbol ++ " ")) :
      (Operation.comparison symbol c a).Spaced P :=
    (Column.spaced_qualified hc).append (follows_text hs a.spaced_fragment)
  cases op with
  | text op => exact op.spaced_fragment hc a
  | number op => exact hcomparison (by cases op <;> decide)
  | boolean op => exact hcomparison (by decide)
  | bytes op => exact hcomparison (by cases op <;> decide)

end Operation

namespace Condition

mutual

def names : Condition → List String
  | and children => namesAll children
  | or children => namesAll children
  | isNull c => c.names
  | isNotNull c => c.names
  | comparison c _ _ => c.names
  | columnsEqual a b => a.names ++ b.names
  | existsIn table inner => table :: names inner

def namesAll : List Condition → List String
  | [] => []
  | k :: ks => names k ++ namesAll ks

end

mutual

theorem spaced_fragment {P : String → Prop} [TextKind P] :
    ∀ k : Condition, (∀ s ∈ k.names, P s) → k.fragment.Spaced P
  | .and ks, h => spaced_group (by decide) (spaced_fragments ks h)
  | .or ks, h => spaced_group (by decide) (spaced_fragments ks h)
  | .isNull _, h => (Column.spaced_qualified h).append (follows_single (by decide))
  | .isNotNull _, h => (Column.spaced_qualified h).append (follows_single (by decide))
  | .comparison _ op a, h => op.spaced_fragment h a
  | .columnsEqual a b, h => by
    obtain ⟨ha, hb⟩ := List.forall_mem_append.mp h
    exact (Column.spaced_qualified ha).append
      (follows_text (by decide) (Column.spaced_qualified hb))
  | .existsIn table inner, h => by
    obtain ⟨htable, hinner⟩ := List.forall_mem_cons.mp h
    rw [Condition.fragment]
    refine ⟨TextKind.of_separates (by decide), htable, ?_⟩
    split
    next => exact follows_closing.spaced
    next =>
      have hwhere := follows_text (s := " WHERE ") (by decide) (spaced_fragment inner hinner)
      exact hwhere.spaced.append follows_closing

theorem spaced_fragments {P : String → Prop} [TextKind P] :
    ∀ ks : List Condition, (∀ s ∈ namesAll ks, P s) → ∀ f ∈ fragments ks, f.Spaced P
  | [], _ => nofun
  | k :: ks, h => by
    obtain ⟨hk, hks⟩ := List.forall_mem_append.mp h
    have hrest := spaced_fragments ks hks
    rw [fragments]
    split
    next => exact hrest
    next => exact List.forall_mem_cons.mpr ⟨spaced_fragment k hk, hrest⟩

end

theorem follows_whereFragment {k : Condition} (h : ∀ s ∈ k.names, P s) :
    k.whereFragment.Follows P := by
  unfold whereFragment
  split
  next => exact follows_nil
  next => exact follows_text (by decide) (k.spaced_fragment h)

end Condition

def Join.names (j : Join) : List String := j.table :: j.on.names

def OrderBy.names (o : OrderBy) : List String := o.column.names

def Options.names (o : Options) : List String :=
  o.joins.flatMap Join.names ++ o.condition.toList.flatMap Condition.names ++
    o.groupBy.flatMap Column.names ++ o.orderBy.flatMap OrderBy.names

theorem Join.follows_fragment {j : Join} (h : ∀ s ∈ j.names, P s) : j.fragment.Follows P := by
  obtain ⟨htable, hon⟩ := List.forall_mem_cons.mp h
  have hkind : Plain j.kind.sql := by cases j.kind <;> decide
  have hclause : Separates (" " ++ j.kind.sql ++ " " ++ j.table ++ " ON ") :=
    ((((show Separates " " by decide).append hkind).append (by decide)).append
      (TextKind.plain htable)).append (by decide)
  refine follows_text hclause ?_
  split
  next => exact (follows_single (by decide)).spaced
  next => exact j.on.spaced_fragment hon

theorem OrderBy.spaced_fragment {o : OrderBy} (h : ∀ s ∈ o.names, P s) : o.fragment.Spaced P := by
  unfold fragment
  split
  next => exact Column.spaced_qualified h
  next => exact (Column.spaced_qualified h).append (follows_single (by decide))

namespace Options

theorem follows_clause {α : Type} {keyword : String} (hk : Separates keyword)
    {fragment : List α → Fragment} {as : List α} (h : (fragment as).Spaced P) :
    (clause keyword fragment as).Follows P := by
  unfold clause
  split
  next => exact follows_nil
  next => exact follows_text hk h

theorem follows_countFragment {keyword : String} (hk : Separates keyword) (n : UInt32) :
    (countFragment keyword n).Follows P := by
  unfold countFragment
  split
  next => exact follows_nil
  next => exact follows_text hk ⟨nofun, trivial⟩

theorem follows_filterFragment {k : Option Condition}
    (h : ∀ s ∈ k.toList.flatMap Condition.names, P s) : (filterFragment k).Follows P := by
  cases k with
  | none => exact follows_nil
  | some k => exact k.follows_whereFragment (by simpa using h)

theorem follows_lockFragment (lock : Bool) : (lockFragment lock).Follows P := by
  cases lock with
  | false => exact follows_nil
  | true => exact follows_single (by decide)

theorem follows_fragment {o : Options} (h : ∀ s ∈ o.names, P s) : o.fragment.Follows P := by
  simp only [names, List.forall_mem_append] at h
  obtain ⟨⟨⟨hjoins, hcondition⟩, hgroup⟩, horder⟩ := h
  have hjoin : ∀ j ∈ o.joins, j.fragment.Follows P := fun j hj =>
    Join.follows_fragment fun s hs => hjoins s (List.mem_flatMap.mpr ⟨j, hj, hs⟩)
  have horders : (orderFragment o.orderBy).Spaced P :=
    spaced_join (by decide) (List.forall_mem_map.mpr fun b hb =>
      OrderBy.spaced_fragment fun s hs => horder s (List.mem_flatMap.mpr ⟨b, hb, hs⟩))
  exact ((((((follows_flatMap hjoin).append (follows_filterFragment hcondition)).append
    (follows_clause (by decide) (Columns.spaced_qualified hgroup))).append
    (follows_clause (by decide) horders)).append (follows_countFragment (by decide) o.limit)).append
    (follows_countFragment (by decide) o.offset)).append (follows_lockFragment o.lock)

end Options

namespace Change

mutual

def names : Change → List String
  | set c _ => c.names
  | increment c source => c.names ++ source.names
  | setJson c _ _ => c.names
  | cte _ _ assignment => optionalNames assignment

def optionalNames : Option Change → List String
  | none => []
  | some ch => names ch

end

theorem spaced_pathFragment (path : List String) : (pathFragment path).Spaced P := by
  have hsegments : (join ", " (path.map fun s => [.value (.text s)])).Spaced P :=
    spaced_join (by decide) (List.forall_mem_map.mpr fun s _ => ⟨nofun, trivial⟩)
  unfold pathFragment
  split
  next => exact (follows_single (by decide)).spaced
  next =>
    have hopening := follows_text (s := "ARRAY[") (by decide) hsegments
    exact hopening.spaced.append (follows_single (by decide))

mutual

theorem spaced_fragment {P : String → Prop} [TextKind P] :
    ∀ ch : Change, (∀ s ∈ ch.names, P s) → ch.fragment.Spaced P
  | .set _ a, h =>
    (Column.spaced_unqualified h).append (follows_text (by decide) a.spaced_fragment)
  | .increment c source, h => by
    obtain ⟨hc, hsource⟩ := List.forall_mem_append.mp h
    have hsum := follows_text (s := " = ") (by decide) (Column.spaced_unqualified hsource)
    have hone : Follows P [.text " + 1"] := follows_single (by decide)
    exact ((Column.spaced_unqualified hc).append hsum).append hone
  | .setJson c path value, h => by
    have hc := Column.spaced_unqualified h
    have hcall := follows_text (s := " = jsonb_set(") (by decide) hc
    have hpath := follows_text (s := ", ") (by decide) (spaced_pathFragment (P := P) path)
    have hvalue : Follows P [.text ", ", .value (.json value), .text ")"] :=
      follows_text (by decide) ⟨(follows_closing (P := P)).aside, follows_closing.spaced⟩
    exact ((hc.append hcall).append hpath).append hvalue
  | .cte _ _ assignment, h => spaced_optionalFragment assignment h

theorem spaced_optionalFragment {P : String → Prop} [TextKind P] :
    ∀ ch : Option Change, (∀ s ∈ optionalNames ch, P s) → (optionalFragment ch).Spaced P
  | none, _ => trivial
  | some ch, h => spaced_fragment ch h

end

end Change

namespace Changes

def names (chs : Changes) : List String := chs.flatMap Change.names

theorem spaced_fragment {chs : Changes} (h : ∀ s ∈ Changes.names chs, P s) :
    (Changes.fragment chs).Spaced P := by
  refine spaced_join (by decide) (List.forall_mem_map.mpr fun ch hch => ?_)
  have hmem : ch ∈ chs := List.mem_of_mem_filter hch
  exact ch.spaced_fragment fun s hs => h s (List.mem_flatMap.mpr ⟨ch, hmem, hs⟩)

end Changes

namespace Table

def names (t : Table) : List String := t.schema :: t.name :: t.aliasName.toList

theorem fromClause_of_names {t : Table} (h : ∀ s ∈ t.names, P s) : P t.fromClause := by
  have hschema : P t.schema := h _ List.mem_cons_self
  have hname : P t.name := h _ (List.mem_cons_of_mem _ List.mem_cons_self)
  have hdot : P "." := TextKind.of_separates (by decide)
  have has : P " AS " := TextKind.of_separates (by decide)
  have hqualified := TextKind.append (TextKind.append hschema hdot) hname
  unfold fromClause
  split
  next name halias =>
    have halias : P name := h _ (by simp [names, halias])
    exact TextKind.append (TextKind.append hqualified has) halias
  next => exact hqualified

end Table

namespace Query

def names (q : Query) : List String :=
  q.table.names ++ q.columns.flatMap Column.names ++ Condition.namesAll q.filters ++
    q.options.names

def fragment (q : Query) : Fragment :=
  Columns.qualified q.columns ++ .text (" FROM " ++ q.table.fromClause) :: q.finalOptions.fragment

theorem names_finalOptions {P : String → Prop} {q : Query}
    (hfilters : ∀ s ∈ Condition.namesAll q.filters, P s) (hoptions : ∀ s ∈ q.options.names, P s) :
    ∀ s ∈ q.finalOptions.names, P s := by
  unfold finalOptions
  split
  next => exact hoptions
  next =>
    simp only [Options.names, Options.withCondition, List.forall_mem_append, Option.toList_some,
      List.flatMap_cons, List.flatMap_nil, List.append_nil, Condition.names] at hoptions ⊢
    exact ⟨⟨⟨hoptions.1.1.1, hfilters⟩, hoptions.1.2⟩, hoptions.2⟩

theorem spaced_fragment {q : Query} (h : ∀ s ∈ q.names, P s) : q.fragment.Spaced P := by
  simp only [names, List.forall_mem_append] at h
  obtain ⟨⟨⟨htable, hcolumns⟩, hfilters⟩, hoptions⟩ := h
  have hfinal := Options.follows_fragment (names_finalOptions hfilters hoptions)
  have hfrom : Separates (" FROM " ++ q.table.fromClause) :=
    (show Separates " FROM " by decide).append (TextKind.plain (Table.fromClause_of_names htable))
  exact (Columns.spaced_qualified hcolumns).append (follows_text hfrom hfinal.spaced)

end Query

end BoundSql
