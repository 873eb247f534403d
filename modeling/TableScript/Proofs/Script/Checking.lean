import Mathlib.Data.List.Sort
import TableScript.Script.Plan

/-!
# Checks of plans and tables

Plans and tables are checked in the same way: the items of a list are taken in turn, with the rank of the item before
and the symbols that have been made so far.  Both are known from the items before (`Check.lastRank?`, `Check.made`),
so the walk accepts a list exactly when its ranks rise and each item reads what earlier items make
(`Check.firstFault?_eq_none_iff`), and otherwise it stops at the first item that does not go with those before it, for
the first reason in the order of the checks (`Check.firstFault?_eq_some_iff`).

Plans are walked with what their stages do under some options (`validate_stops_at_first_fault`), and tables with what
their stages declare (`verifyGraph_stops_at_first_fault`).  A list that is accepted as declared is accepted under all
options that keep to it (`Check.Accepts.mono`).
-/

namespace TableScript

theorem Scope.firstMissing?_eq_none {scope : Scope} {symbols : List Symbol} :
    scope.firstMissing? symbols = none ↔ ∀ symbol ∈ symbols, symbol ∈ scope := by
  simp [Scope.firstMissing?]

theorem Scope.firstMissing?_eq_some_iff {scope : Scope} {symbols : List Symbol} {missing : Symbol} :
    scope.firstMissing? symbols = some missing ↔ ∃ found rest, symbols = found ++ missing :: rest ∧
      (∀ symbol ∈ found, symbol ∈ scope) ∧ missing ∉ scope := by
  rw [Scope.firstMissing?, List.find?_eq_some_iff_append]
  constructor
  · rintro ⟨hmissing, found, rest, he, hfound⟩
    exact ⟨found, rest, he, by simpa using hfound, by simpa using hmissing⟩
  · rintro ⟨found, rest, he, hfound, hmissing⟩
    exact ⟨by simpa using hmissing, found, rest, he, by simpa using hfound⟩

/-- What a check looks at in an item: its rank, and the symbols that it reads and makes. -/
structure Check (α : Type) where
  rank : α → Nat
  reads : α → List Symbol
  makes : α → List Symbol

namespace Check

variable {α β : Type}

/-- One of some items makes the symbol. -/
def Made (check : Check α) (before : List α) (symbol : Symbol) : Prop :=
  ∃ earlier ∈ before, symbol ∈ check.makes earlier

/-- The ranks of some items rise. -/
def Rising (check : Check α) (items : List α) : Prop :=
  items.Pairwise fun a b => check.rank a < check.rank b

/-- Each item reads only what the items before it make. -/
def Supplied (check : Check α) (items : List α) : Prop :=
  ∀ before item after, items = before ++ item :: after → ∀ symbol ∈ check.reads item, check.Made before symbol

/-- The lists of items that are accepted. -/
structure Accepts (check : Check α) (items : List α) : Prop where
  rising : check.Rising items
  supplied : check.Supplied items

/-- What is wrong with an item behind some others: its rank does not exceed that of the item right before it, or else
a symbol is the first of those it reads that none of the others makes. -/
inductive Faulty (check : Check α) (before : List α) (item : α) : Missing → Prop where
  | order {previous : α} (hlast : before.getLast? = some previous) (hrank : check.rank item ≤ check.rank previous) :
    Faulty check before item (.order (check.rank item))
  | symbol {found rest : List Symbol} {missing : Symbol}
      (hrank : ∀ previous ∈ before.getLast?, check.rank previous < check.rank item)
      (hreads : check.reads item = found ++ missing :: rest) (hfound : ∀ symbol ∈ found, check.Made before symbol)
      (hmissing : ¬check.Made before missing) :
    Faulty check before item (.symbol missing)

/-- The first item of a list that does not go with those before it, and what is wrong with it. -/
def FirstFault (check : Check α) (items : List α) (item : α) (fault : Missing) : Prop :=
  ∃ before after, items = before ++ item :: after ∧ check.Accepts before ∧ check.Faulty before item fault

/-- What is wrong with an item behind one of rank `previous`, when the symbols in `made` have been made. -/
def fault? (check : Check α) (previous : Option Nat) (made : Scope) (item : α) : Option Missing :=
  if previous.any (check.rank item ≤ ·) then some (.order (check.rank item))
  else (made.firstMissing? (check.reads item)).map .symbol

/-- Takes items in turn up to the first with which something is wrong. -/
def firstFault? (check : Check α) (previous : Option Nat) (made : Scope) : List α → Option (α × Missing)
  | [] => none
  | item :: items =>
    match check.fault? previous made item with
    | some fault => some (item, fault)
    | none => firstFault? check (some (check.rank item)) (made.extend (check.makes item)) items

/-- The rank of the last of some items. -/
def lastRank? (check : Check α) (before : List α) : Option Nat :=
  before.getLast?.map check.rank

/-- The symbols that some items make. -/
def made (check : Check α) (before : List α) : Scope :=
  before.flatMap check.makes

/-- The items are taken as the things that they stand for. -/
def comap (check : Check β) (f : α → β) : Check α where
  rank a := check.rank (f a)
  reads a := check.reads (f a)
  makes a := check.makes (f a)

variable {check : Check α} {before items : List α} {item : α} {fault : Missing}

theorem mem_made {symbol : Symbol} : symbol ∈ check.made before ↔ check.Made before symbol :=
  List.mem_flatMap

theorem made_concat : check.made (before ++ [item]) = (check.made before).extend (check.makes item) := by
  simp [made, Scope.extend]

theorem lastRank?_concat : check.lastRank? (before ++ [item]) = some (check.rank item) := by
  simp [lastRank?]

/-! ### One item -/

theorem rising_concat : check.Rising (before ++ [item]) ↔
    check.Rising before ∧ ∀ previous ∈ before.getLast?, check.rank previous < check.rank item := by
  rw [Rising, Rising, List.pairwise_append]
  simp only [List.pairwise_singleton, List.mem_singleton, forall_eq, true_and]
  constructor
  · rintro ⟨h, hall⟩
    exact ⟨h, fun previous hp => hall previous (List.mem_of_getLast? hp)⟩
  · rintro ⟨h, hlast⟩
    refine ⟨h, fun a ha => ?_⟩
    -- the ranks rise to that of the last item, which is below the new one
    obtain ⟨front, last, rfl⟩ : ∃ front last, before = front ++ [last] :=
      ⟨before.dropLast, before.getLast (List.ne_nil_of_mem ha), (List.dropLast_concat_getLast _).symm⟩
    have hitem := hlast last (by simp)
    rw [List.pairwise_append] at h
    rcases List.mem_append.1 ha with ha | ha
    · have := h.2.2 a ha last (by simp)
      omega
    · rwa [List.mem_singleton.1 ha]

theorem supplied_concat : check.Supplied (before ++ [item]) ↔
    check.Supplied before ∧ ∀ symbol ∈ check.reads item, check.Made before symbol := by
  constructor
  · intro h
    exact ⟨fun front next after he => h front next (after ++ [item]) (by simp [he]), h before item [] rfl⟩
  · rintro ⟨hbefore, hitem⟩ front next after he
    rcases List.eq_nil_or_concat after with rfl | ⟨after, last, rfl⟩
    · obtain ⟨rfl, hn⟩ := List.append_inj' he rfl
      obtain rfl := List.singleton_inj.1 hn
      exact hitem
    · -- the place is one of `before`
      rw [List.concat_eq_append, ← List.cons_append, ← List.append_assoc] at he
      exact hbefore front next after (List.append_inj' he rfl).1

theorem accepts_nil : check.Accepts [] :=
  ⟨List.Pairwise.nil, fun before item after he => by simp at he⟩

theorem Accepts.of_append {after : List α} (h : check.Accepts (before ++ after)) : check.Accepts before := by
  refine ⟨(List.pairwise_append.1 h.rising).1, fun front item rest he => ?_⟩
  exact h.supplied front item (rest ++ after) (by simp [he])

/-- What makes accepted items stay so when one more comes. -/
theorem accepts_concat (h : check.Accepts before) : check.Accepts (before ++ [item]) ↔
    (∀ previous ∈ before.getLast?, check.rank previous < check.rank item) ∧
      ∀ symbol ∈ check.reads item, check.Made before symbol := by
  constructor
  · intro ha
    exact ⟨(rising_concat.1 ha.rising).2, (supplied_concat.1 ha.supplied).2⟩
  · rintro ⟨hrank, hreads⟩
    exact ⟨rising_concat.2 ⟨h.rising, hrank⟩, supplied_concat.2 ⟨h.supplied, hreads⟩⟩

/-- An item goes with accepted ones exactly if nothing is wrong with it. -/
theorem fault?_eq_none_iff (h : check.Accepts before) :
    check.fault? (check.lastRank? before) (check.made before) item = none ↔ check.Accepts (before ++ [item]) := by
  rw [accepts_concat h, fault?, lastRank?]
  simp only [← mem_made, ← Scope.firstMissing?_eq_none]
  cases before.getLast? with
  | none => simp
  | some previous =>
    by_cases hr : check.rank item ≤ check.rank previous
    · simp [hr]
    · simp [hr, Nat.lt_of_not_le hr]

theorem fault?_eq_some_iff :
    check.fault? (check.lastRank? before) (check.made before) item = some fault ↔ check.Faulty before item fault := by
  have hrank : (check.lastRank? before).any (check.rank item ≤ ·) ↔
      ∃ previous, before.getLast? = some previous ∧ check.rank item ≤ check.rank previous := by
    rw [lastRank?]
    cases before.getLast? <;> simp
  rw [fault?]
  by_cases hr : (check.lastRank? before).any (check.rank item ≤ ·)
  · obtain ⟨previous, hlast, hle⟩ := hrank.1 hr
    rw [if_pos hr, Option.some.injEq]
    constructor
    · rintro rfl
      exact .order hlast hle
    · intro hf
      cases hf with
      | order => rfl
      | symbol hlt => exact absurd (hlt previous hlast) (by omega)
  · have hlt : ∀ previous ∈ before.getLast?, check.rank previous < check.rank item :=
      fun previous hlast => Nat.lt_of_not_le fun hle => hr (hrank.2 ⟨previous, hlast, hle⟩)
    rw [if_neg hr, Option.map_eq_some_iff]
    simp only [Scope.firstMissing?_eq_some_iff, mem_made]
    constructor
    · rintro ⟨missing, ⟨found, rest, hreads, hfound, hmissing⟩, rfl⟩
      exact .symbol hlt hreads hfound hmissing
    · intro hf
      cases hf with
      | order hlast hle => exact absurd (hlt _ hlast) (by omega)
      | symbol _ hreads hfound hmissing => exact ⟨_, ⟨_, _, hreads, hfound, hmissing⟩, rfl⟩

/-! ### A list of items -/

/-- Nothing is wrong with the items behind accepted ones exactly if all of them are accepted. -/
theorem firstFault?_eq_none_iff (h : check.Accepts before) :
    check.firstFault? (check.lastRank? before) (check.made before) items = none ↔
      check.Accepts (before ++ items) := by
  -- the walk goes on from what is known behind `before`, so `before` grows by the item that is taken
  induction items generalizing before with
  | nil => simpa [firstFault?] using h
  | cons item items ih =>
    rw [firstFault?, List.append_cons]
    cases hf : check.fault? (check.lastRank? before) (check.made before) item with
    | some fault =>
      have hitem : ¬check.Accepts (before ++ [item]) := by simp [← fault?_eq_none_iff h, hf]
      simp only [reduceCtorEq, false_iff]
      exact fun ha => hitem ha.of_append
    | none =>
      have hitem := (fault?_eq_none_iff h).1 hf
      rw [← ih hitem, lastRank?_concat, made_concat]

/-- An item of a list is the first of them or stands behind it. -/
private theorem exists_split_cons {first : α} {p : List α → Prop} :
    (∃ between after, first :: items = between ++ item :: after ∧ p (before ++ between)) ↔
      first = item ∧ p before ∨
        ∃ between after, items = between ++ item :: after ∧ p (before ++ [first] ++ between) := by
  constructor
  · rintro ⟨between, after, he, hp⟩
    cases between with
    | nil =>
      obtain ⟨rfl, -⟩ := List.cons.inj he
      exact Or.inl ⟨rfl, by simpa using hp⟩
    | cons next between =>
      obtain ⟨rfl, rfl⟩ := List.cons.inj he
      exact Or.inr ⟨between, after, rfl, by simpa using hp⟩
  · rintro (⟨rfl, hp⟩ | ⟨between, after, rfl, hp⟩)
    · exact ⟨[], items, rfl, by simpa using hp⟩
    · exact ⟨first :: between, after, rfl, by simpa using hp⟩

/-- The walk stops behind accepted items at the first one that does not go with those before it. -/
theorem firstFault?_eq_some_iff (h : check.Accepts before) :
    check.firstFault? (check.lastRank? before) (check.made before) items = some (item, fault) ↔
      ∃ between after, items = between ++ item :: after ∧ check.Accepts (before ++ between) ∧
        check.Faulty (before ++ between) item fault := by
  induction items generalizing before with
  | nil => simp [firstFault?]
  | cons first items ih =>
    rw [firstFault?, exists_split_cons (p := fun front => check.Accepts front ∧ check.Faulty front item fault)]
    cases hf : check.fault? (check.lastRank? before) (check.made before) first with
    | some found =>
      have hfirst : ¬check.Accepts (before ++ [first]) := by simp [← fault?_eq_none_iff h, hf]
      rw [or_iff_left fun ⟨between, after, _, ha, _⟩ => hfirst ha.of_append]
      simp only [Option.some.injEq, Prod.mk.injEq]
      refine and_congr_right fun he => ?_
      rw [← he, ← fault?_eq_some_iff, hf, Option.some.injEq]
      exact (and_iff_right h).symm
    | none =>
      have hfirst := (fault?_eq_none_iff h).1 hf
      have hnot : ¬(first = item ∧ check.Accepts before ∧ check.Faulty before item fault) := by
        rintro ⟨rfl, -, hfault⟩
        simp [← fault?_eq_some_iff, hf] at hfault
      rw [or_iff_right hnot, ← ih hfirst, lastRank?_concat, made_concat]

theorem firstFault?_nil_eq_none_iff : check.firstFault? none [] items = none ↔ check.Accepts items :=
  firstFault?_eq_none_iff accepts_nil

theorem firstFault?_nil_eq_some_iff :
    check.firstFault? none [] items = some (item, fault) ↔ check.FirstFault items item fault :=
  firstFault?_eq_some_iff accepts_nil

/-- What is accepted stays so when the items read no more and make no less. -/
theorem Accepts.mono {other : Check α} (h : check.Accepts items) (hrank : other.rank = check.rank)
    (hreads : ∀ item ∈ items, ∀ symbol ∈ other.reads item, symbol ∈ check.reads item)
    (hmakes : ∀ item ∈ items, ∀ symbol ∈ check.makes item, symbol ∈ other.makes item) : other.Accepts items := by
  refine ⟨by simpa only [Rising, hrank] using h.rising, fun before item after he symbol hs => ?_⟩
  have hsymbol := hreads item (by simp [he]) symbol hs
  obtain ⟨earlier, hearlier, hm⟩ := h.supplied before item after he symbol hsymbol
  exact ⟨earlier, hearlier, hmakes earlier (by simp [he, hearlier]) symbol hm⟩

theorem firstFault?_map {check : Check β} (f : α → β) (previous : Option Nat) (made : Scope) (items : List α) :
    check.firstFault? previous made (items.map f) =
      ((check.comap f).firstFault? previous made items).map fun (item, fault) => (f item, fault) := by
  induction items generalizing previous made with
  | nil => rfl
  | cons item items ih =>
    rw [List.map_cons, firstFault?, firstFault?, ih]
    have hfault : (check.comap f).fault? previous made item = check.fault? previous made (f item) := rfl
    rw [hfault]
    cases check.fault? previous made (f item) <;> rfl

/-- What comes of a check that has found a fault or none. -/
def verdict (id : α → StageId) : Option (α × Missing) → Except GenerationError Unit
  | none => .ok ()
  | some (item, fault) => .error (.dependency (id item) fault)

variable {id : α → StageId}

theorem verdict_eq_ok_iff : verdict id (check.firstFault? none [] items) = .ok () ↔ check.Accepts items := by
  rw [← firstFault?_nil_eq_none_iff]
  cases check.firstFault? none [] items <;> simp [verdict]

theorem verdict_eq_error_iff {error : GenerationError} : verdict id (check.firstFault? none [] items) = .error error ↔
    ∃ item fault, check.FirstFault items item fault ∧ error = .dependency (id item) fault := by
  simp only [← firstFault?_nil_eq_some_iff]
  cases check.firstFault? none [] items with
  | none => simp [verdict]
  | some found =>
    obtain ⟨item, fault⟩ := found
    simp only [verdict, Except.error.injEq, Option.some.injEq, Prod.mk.injEq]
    exact ⟨fun h => ⟨item, fault, ⟨rfl, rfl⟩, h.symm⟩, fun ⟨_, _, ⟨rfl, rfl⟩, h⟩ => h.symm⟩

end Check

/-! ### Plans -/

/-- What a stage reads and makes under some options. -/
def Stage.running (options : Options) : Check Stage where
  rank := Stage.rank
  reads stage := stage.requires options
  makes stage := stage.produces options

/-- What the stage with an identity reads and makes under some options. -/
def StageId.running (options : Options) : Check StageId :=
  (Stage.running options).comap StageId.stage

theorem StageId.rank_pos (id : StageId) : 0 < id.stage.rank := by
  cases id <;> decide

/-- Stages of rising ranks are the table without some of its stages. -/
theorem StageId.rising_iff_sublist {options : Options} {ids : List StageId} :
    (StageId.running options).Rising ids ↔ ids.Sublist StageId.all := by
  have hall : (StageId.running options).Rising StageId.all := by
    show StageId.all.Pairwise fun a b => a.stage.rank < b.stage.rank
    decide
  refine ⟨fun h => ?_, fun h => List.Pairwise.sublist h hall⟩
  have hantisymm : Std.Antisymm fun a b : StageId => a.stage.rank < b.stage.rank :=
    ⟨fun a b hab hba => absurd hab (Nat.lt_asymm hba)⟩
  have hnodup : ids.Nodup := List.Pairwise.imp (fun hlt he => by simp [he] at hlt) h
  exact List.sublist_of_subperm_of_pairwise (List.subperm_of_subset hnodup fun id _ => StageId.mem_all id) h hall

/-- The first item is behind none, so that its rank only has to be positive. -/
theorem Check.firstFault?_zero {α : Type} {check : Check α} (hrank : ∀ item, 0 < check.rank item) (made : Scope)
    (items : List α) : check.firstFault? (some 0) made items = check.firstFault? none made items := by
  cases items with
  | nil => rfl
  | cons item items =>
    have hfault : check.fault? (some 0) made item = check.fault? none made item := by
      simp [fault?, Nat.ne_of_gt (hrank item)]
    rw [firstFault?, firstFault?, hfault]

theorem Plan.validateFrom_eq_verdict {options : Options} {previous : Nat} {scope : Scope} {ids : List StageId} :
    validateFrom options previous scope ids =
      Check.verdict id ((StageId.running options).firstFault? (some previous) scope ids) := by
  induction ids generalizing previous scope with
  | nil => rfl
  | cons first ids ih =>
    have hfault : (StageId.running options).fault? (some previous) scope first =
        if first.stage.rank ≤ previous then some (.order first.stage.rank)
        else (scope.firstMissing? (first.stage.requires options)).map .symbol := by
      simp only [Check.fault?, Option.any_some, decide_eq_true_eq]
      rfl
    rw [validateFrom, Check.firstFault?, hfault]
    split_ifs
    · rfl
    · cases scope.firstMissing? (first.stage.requires options) with
      | some missing => rfl
      | none => exact ih

/-- The check of a plan is the walk over its stages. -/
theorem Plan.validate_eq_verdict (plan : Plan) (options : Options) :
    plan.validate options = Check.verdict id ((StageId.running options).firstFault? none [] plan.stages) := by
  rw [validate, validateFrom_eq_verdict, Check.firstFault?_zero StageId.rank_pos]

theorem Plan.validate_eq_ok_iff_accepts {plan : Plan} {options : Options} :
    plan.validate options = .ok () ↔ (StageId.running options).Accepts plan.stages := by
  rw [validate_eq_verdict, Check.verdict_eq_ok_iff]

/-- A plan is valid exactly if it is the table without some of its stages and each of its stages requires only what
earlier ones produce, and otherwise it is refused for the first stage that does not go with those before it. -/
theorem validate_stops_at_first_fault (plan : Plan) (options : Options) :
    (plan.validate options = .ok () ↔ plan.stages.Sublist (stageTable.map Stage.id) ∧ plan.stages.Nodup ∧
      (StageId.running options).Supplied plan.stages) ∧
    ∀ error, plan.validate options = .error error ↔ ∃ id fault,
      (StageId.running options).FirstFault plan.stages id fault ∧ error = .dependency id fault := by
  have htable : stageTable.map Stage.id = StageId.all := rfl
  have hnodup : StageId.all.Nodup := by decide
  have hsublist : (StageId.running options).Rising plan.stages ↔ plan.stages.Sublist StageId.all :=
    StageId.rising_iff_sublist
  refine ⟨?_, fun error => ?_⟩
  · rw [Plan.validate_eq_ok_iff_accepts, htable, ← hsublist]
    constructor
    · intro h
      exact ⟨h.rising, (hsublist.1 h.rising).nodup hnodup, h.supplied⟩
    · rintro ⟨hrising, -, hsupplied⟩
      exact ⟨hrising, hsupplied⟩
  · rw [Plan.validate_eq_verdict, Check.verdict_eq_error_iff]
    rfl

/-- The first stage at fault is named, although the one after it is out of order. -/
example : Plan.validate ⟨[.load, .split, .imports]⟩ {} = .error (.dependency .split (.symbol .x)) := by
  decide

/-! ### Tables -/

/-- What a stage declares that it may read and make. -/
def Stage.declared : Check Stage where
  rank := Stage.rank
  reads := Stage.declaredInputs
  makes := Stage.declaredOutputs

/-- Under some options a stage reads no more than it declares and makes no less. -/
structure Stage.KeepsDeclared (options : Options) (stage : Stage) : Prop where
  requires : ∀ symbol ∈ stage.requires options, symbol ∈ stage.declaredInputs
  produces : ∀ symbol ∈ stage.declaredOutputs, symbol ∈ stage.produces options

theorem verifyGraphFrom_eq_verdict {previous : Option Nat} {made : Scope} {stages : List Stage} :
    verifyGraphFrom previous made stages =
      Check.verdict Stage.id (Stage.declared.firstFault? previous made stages) := by
  induction stages generalizing previous made with
  | nil => rfl
  | cons first stages ih =>
    have hfault : Stage.declared.fault? previous made first =
        if previous.any (first.rank ≤ ·) then some (.order first.rank)
        else (made.firstMissing? first.declaredInputs).map .symbol := rfl
    rw [verifyGraphFrom, Check.firstFault?, hfault]
    split_ifs
    · rfl
    · cases made.firstMissing? first.declaredInputs with
      | some missing => rfl
      | none => exact ih

theorem verifyGraph_eq_ok_iff {stages : List Stage} : verifyGraph stages = .ok () ↔ Stage.declared.Accepts stages := by
  rw [verifyGraph, verifyGraphFrom_eq_verdict, Check.verdict_eq_ok_iff]

/-- A table is accepted exactly if its ranks rise and each stage declares to read only what earlier ones declare to
make, and otherwise it is refused for the first stage that does not go with those before it.  The stages of an
accepted table lack nothing under options that keep to what they declare. -/
theorem verifyGraph_stops_at_first_fault (stages : List Stage) :
    (verifyGraph stages = .ok () ↔
      stages.Pairwise (fun a b => a.rank < b.rank) ∧ Stage.declared.Supplied stages) ∧
    (∀ error, verifyGraph stages = .error error ↔ ∃ stage fault,
      Stage.declared.FirstFault stages stage fault ∧ error = .dependency stage.id fault) ∧
    ∀ options, verifyGraph stages = .ok () → (∀ stage ∈ stages, stage.KeepsDeclared options) →
      (Stage.running options).firstFault? none [] stages = none ∧
      ∀ plan : Plan, stages = plan.stages.map StageId.stage → plan.validate options = .ok () := by
  refine ⟨?_, fun error => ?_, fun options h hkeeps => ?_⟩
  · rw [verifyGraph_eq_ok_iff]
    exact ⟨fun h => ⟨h.rising, h.supplied⟩, fun h => ⟨h.1, h.2⟩⟩
  · rw [verifyGraph, verifyGraphFrom_eq_verdict, Check.verdict_eq_error_iff]
  · rw [verifyGraph_eq_ok_iff] at h
    have hruns : (Stage.running options).Accepts stages :=
      h.mono rfl (fun stage hs => (hkeeps stage hs).requires) fun stage hs => (hkeeps stage hs).produces
    have hnone := Check.firstFault?_nil_eq_none_iff.2 hruns
    refine ⟨hnone, fun plan he => ?_⟩
    rw [he, Check.firstFault?_map, Option.map_eq_none_iff] at hnone
    rwa [Plan.validate_eq_ok_iff_accepts, ← Check.firstFault?_nil_eq_none_iff]

/-- The table without the stage that scales, which never makes all that it declares. -/
theorem table_without_scale_runs :
    let ids := StageId.all.filter (· ≠ .scale)
    let options : Options := { splitDataset := true }
    verifyGraph (ids.map StageId.stage) = .ok () ∧
      (∀ stage ∈ ids.map StageId.stage, stage.KeepsDeclared options) ∧
      (Stage.running options).firstFault? none [] (ids.map StageId.stage) = none ∧
      Plan.validate ⟨ids⟩ options = .ok () := by
  intro ids options
  have hgraph : verifyGraph (ids.map StageId.stage) = .ok () := by decide
  have hkeeps : ∀ stage ∈ ids.map StageId.stage, stage.KeepsDeclared options := by
    have hall : ∀ id ∈ ids, (∀ symbol ∈ id.stage.requires options, symbol ∈ id.stage.declaredInputs) ∧
        ∀ symbol ∈ id.stage.declaredOutputs, symbol ∈ id.stage.produces options := by decide
    intro stage hs
    obtain ⟨id, hid, rfl⟩ := List.mem_map.1 hs
    exact ⟨(hall id hid).1, (hall id hid).2⟩
  have hruns := (verifyGraph_stops_at_first_fault (ids.map StageId.stage)).2.2 options hgraph hkeeps
  exact ⟨hgraph, hkeeps, hruns.1, hruns.2 ⟨ids⟩ rfl⟩

end TableScript
