import KeycloakExtensions.LdapObjectNames

/-! # The consumer that waits for the mandatory attributes

What an entry knows of its mandatory attributes are lower-cased names that were still without a
value when their set was last handed over; sets change behind its back. Over any calls to any
entries: when its consumer is called, and while it still waits, which attributes have values. -/
namespace LdapObjectMandatory

open KeycloakModel LibraryEffects LibraryFoldedNames LibraryKeyedSet LibraryRuns LdapObject
  LdapObjectNames

variable {Consumer : Type} {lower : String → String} {w : World Consumer} {this i : ObjectId}
  {consumer : Consumer} {mandatory remaining : Finset String}

structure Waits (o : LDAPObject Consumer) (consumer : Consumer)
    (mandatory remaining : Finset String) : Prop where
  consumer : o.consumerOnMandatoryAttributesComplete = some consumer
  mandatory : o.mandatoryAttributeNames = some mandatory
  remaining : o.mandatoryAttributeNamesRemaining = some remaining

def concluded (o : LDAPObject Consumer) : LDAPObject Consumer :=
  { o with
    consumerOnMandatoryAttributesComplete := none
    mandatoryAttributeNames := none
    mandatoryAttributeNamesRemaining := none }

def awaiting (o : LDAPObject Consumer) (consumer : Option Consumer)
    (mandatory remaining : Finset String) : LDAPObject Consumer :=
  { o with
    consumerOnMandatoryAttributesComplete := consumer
    mandatoryAttributeNames := some mandatory
    mandatoryAttributeNamesRemaining := some remaining }

/-- The names still to come once the entry has been given the set. -/
def left (w : World Consumer) (ref : SetRef) (name : String) (mandatory remaining : Finset String) :
    Finset String :=
  if (w.sets ref).elems ≠ [] then remaining.erase name
  else if name ∈ mandatory then insert name remaining else remaining

/-- The entry is done waiting when no name is left: its consumer, if it has one, is called. -/
def settle (w : World Consumer) (this : ObjectId) (o : LDAPObject Consumer)
    (consumer : Option Consumer) (mandatory remaining : Finset String) :
    Except JavaException Unit × World Consumer :=
  if remaining = ∅ then
    match consumer with
    | none => (.error .nullPointer,
      { w with objects := Function.update w.objects this (concluded o) })
    | some consumer => (.ok (),
      { w with
        objects := Function.update w.objects this (concluded o)
        accepted := w.accepted ++ [(this, consumer)] })
  else (.ok (),
    { w with objects := Function.update w.objects this (awaiting o consumer mandatory remaining) })

/-! ## What one execution does -/

theorem exec_executeConsumer (w : World Consumer) (this : ObjectId) (o : LDAPObject Consumer)
    (consumer : Option Consumer) (mandatory remaining : Finset String) :
    exec (executeConsumerOnMandatoryAttributesComplete this)
        { w with
          objects := Function.update w.objects this (awaiting o consumer mandatory remaining) } =
      settle w this o consumer mandatory remaining := by
  simp only [executeConsumerOnMandatoryAttributesComplete, exec_bind, exec_getObject,
    Function.update_self, andThen_ok, awaiting, exec_nonNull_some, exec_ite, exec_setObject, settle,
    Function.update_idem]
  by_cases hleft : remaining = ∅
  · rw [if_pos hleft, if_pos hleft]
    cases consumer with
    | none => rfl
    | some consumer => rfl
  · rw [if_neg hleft, if_neg hleft]
    rfl

theorem exec_setAttribute_idle {name : String} {ref : Option SetRef}
    (idle : (w.objects this).consumerOnMandatoryAttributesComplete = none) :
    exec (setAttribute lower this name ref) w = (.ok (), { w with
      objects := Function.update w.objects this
        (withTable (w.objects this)
          (put lower (table (w.objects this)) name (ref.getD emptySet))) }) := by
  simp only [setAttribute, exec_bind, exec_putAttribute, andThen_ok, updateRemaining, exec_get,
    exec_getObject, Function.update_self, exec_ite]
  rw [if_neg]
  · rfl
  · simp [withTable, idle]

theorem exec_updateRemaining {name : String} {ref : SetRef}
    (waits : Waits (w.objects this) consumer mandatory remaining) :
    exec (updateRemaining this name ref) w =
      settle w this (w.objects this) (some consumer) mandatory
        (left w ref name mandatory remaining) := by
  simp only [updateRemaining, exec_bind, exec_get, exec_getObject, andThen_ok, exec_ite,
    waits.consumer, waits.mandatory, waits.remaining, Option.isSome_some, if_true,
    exec_nonNull_some, exec_setObject]
  rw [← exec_executeConsumer, left]
  by_cases filled : (w.sets ref).elems ≠ []
  · rw [if_pos filled, if_pos filled]
    rfl
  rw [if_neg filled, if_neg filled]
  by_cases known : name ∈ mandatory
  · rw [if_pos known, if_pos known]
    rfl
  · -- nothing is put: the entry is already the one that awaits the same names
    have unchanged : awaiting (w.objects this) (some consumer) mandatory remaining =
        w.objects this := by
      rw [awaiting, ← waits.consumer, ← waits.mandatory, ← waits.remaining]
    rw [if_neg known, if_neg known, unchanged, Function.update_eq_self]

theorem exec_setAttribute_waits {name : String} {ref : Option SetRef}
    (waits : Waits (w.objects this) consumer mandatory remaining) :
    exec (setAttribute lower this name ref) w =
      settle w this
        (withTable (w.objects this)
          (put lower (table (w.objects this)) name (ref.getD emptySet)))
        (some consumer) mandatory
        (left w (ref.getD emptySet) (lower name) mandatory remaining) := by
  have waits' : Waits (Function.update w.objects this
      (withTable (w.objects this) (put lower (table (w.objects this)) name (ref.getD emptySet)))
      this) consumer mandatory remaining := by
    rw [Function.update_self]
    exact ⟨waits.consumer, waits.mandatory, waits.remaining⟩
  simp only [setAttribute, exec_bind, exec_putAttribute, andThen_ok]
  rw [exec_updateRemaining waits']
  simp only [settle, Function.update_self, Function.update_idem, left]
  rfl

/-! ## The loop over the mandatory names -/

theorem initializeMandatory_fold (lower : String → String) (w : World Consumer)
    (o : LDAPObject Consumer) (names : List String) (filled : Finset String × Finset String)
    (m : String) :
    (m ∈ (names.foldl (initializeMandatory lower w o) filled).1 ↔
      m ∈ filled.1 ∨ ∃ name ∈ names, lower name = m) ∧
    (m ∈ (names.foldl (initializeMandatory lower w o) filled).2 ↔
      m ∈ filled.2 ∨ ∃ name ∈ names, lower name = m ∧ hasValue w o m = false) := by
  induction names generalizing filled with
  | nil => simp
  | cons name names ih =>
    obtain ⟨hmandatory, hremaining⟩ := ih (initializeMandatory lower w o filled name)
    rw [List.foldl_cons, hmandatory, hremaining, initializeMandatory]
    constructor
    · simp only [Finset.mem_insert, List.exists_mem_cons_iff]
      grind
    · by_cases filled : hasValue w o (lower name) = true
      · simp only [filled, if_true, List.exists_mem_cons_iff]
        grind
      · simp only [filled, List.exists_mem_cons_iff]
        grind

theorem exec_register (lower : String → String) (this : ObjectId) (names : Option (List String))
    (consumer : Option Consumer) (w : World Consumer) : ∃ mandatory remaining,
      exec (executeOnMandatoryAttributesComplete lower this names consumer) w =
        settle w this (w.objects this) consumer mandatory remaining ∧
      (∀ m, m ∈ mandatory ↔ ∃ name ∈ names.getD [], lower name = m) ∧
      ∀ m, m ∈ remaining ↔ m ∈ mandatory ∧ hasValue w (w.objects this) m = false := by
  have filled := initializeMandatory_fold lower w (w.objects this) (names.getD []) (∅, ∅)
  have hloop : exec (executeOnMandatoryAttributesComplete lower this names consumer) w =
      settle w this (w.objects this) consumer
        ((names.getD []).foldl (initializeMandatory lower w (w.objects this)) (∅, ∅)).1
        ((names.getD []).foldl (initializeMandatory lower w (w.objects this)) (∅, ∅)).2 := by
    rw [← exec_executeConsumer]
    cases names with
    | none => rfl
    | some names => rfl
  simp only [Finset.notMem_empty, false_or] at filled
  refine ⟨_, _, hloop, fun m => (filled m).1, fun m => ?_⟩
  rw [(filled m).1, (filled m).2]
  constructor
  · intro hcase
    rcases hcase with ⟨name, hname, hm, hvalue⟩
    exact ⟨⟨name, hname, hm⟩, hvalue⟩
  · intro hcase
    rcases hcase with ⟨⟨name, hname, hm⟩, hvalue⟩
    exact ⟨name, hname, hm, hvalue⟩

/-! ## What the names left tell -/

/-- With `filled`, a mandatory attribute that is not left has a value; without, one that is left
has none. -/
structure Tracked (filled : Bool) (lower : String → String) (w : World Consumer)
    (o : LDAPObject Consumer) (names : List String) (mandatory remaining : Finset String) :
    Prop where
  mandatory_iff : ∀ m, m ∈ mandatory ↔ ∃ name ∈ names, lower name = m
  subset : remaining ⊆ mandatory
  tracked : ∀ m ∈ mandatory, decide (m ∉ remaining) = filled → hasValue w o m = filled

def hasElements (w : World Consumer) (ref : SetRef) : Bool := decide ((w.sets ref).elems ≠ [])

/-- Sets in use that have values (or have none, without `filled`) stay so. -/
def Steady (filled : Bool) (w w' : World Consumer) : Prop :=
  ∀ ref < w.next, hasElements w ref = filled → hasElements w' ref = filled

def Allocated (w : World Consumer) (o : LDAPObject Consumer) : Prop :=
  ∀ name entry, o.lowerCasedAttributes.lookup name = some entry → entry.2 < w.next

variable {filled : Bool} {o o' : LDAPObject Consumer} {names : List String} {w' : World Consumer}

theorem hasValue_steady (ha : Allocated w o) (steady : Steady filled w w')
    (hsame : o'.lowerCasedAttributes = o.lowerCasedAttributes) {m : String}
    (h : hasValue w o m = filled) : hasValue w' o' m = filled := by
  rw [hasValue, hsame]
  rw [hasValue] at h
  cases hl : o.lowerCasedAttributes.lookup m with
  | none => rwa [hl] at h
  | some entry =>
    rw [hl] at h
    exact steady entry.2 (ha m entry hl) h

theorem Tracked.steady (h : Tracked filled lower w o names mandatory remaining)
    (ha : Allocated w o) (steady : Steady filled w w')
    (hsame : o'.lowerCasedAttributes = o.lowerCasedAttributes) :
    Tracked filled lower w' o' names mandatory remaining where
  mandatory_iff := h.mandatory_iff
  subset := h.subset
  tracked m hm hleft := hasValue_steady ha steady hsame (h.tracked m hm hleft)

theorem mem_left {ref : SetRef} {name m : String} (hother : m ≠ name) :
    m ∈ left w ref name mandatory remaining ↔ m ∈ remaining := by
  rw [left]
  split
  · exact ⟨Finset.mem_of_mem_erase, Finset.mem_erase_of_ne_of_mem hother⟩
  · split
    · exact ⟨fun hm => Finset.mem_of_mem_insert_of_ne hm hother, Finset.mem_insert_of_mem⟩
    · exact Iff.rfl

/-- Of the name just set, the names left say whether the set has a value. -/
theorem mem_left_self {ref : SetRef} {name : String} (hm : name ∈ mandatory) :
    decide (name ∉ left w ref name mandatory remaining) = hasElements w ref := by
  rw [left, hasElements]
  by_cases hvalues : (w.sets ref).elems ≠ []
  · simp [hvalues]
  · simp [hvalues, hm]

theorem Tracked.put (h : Tracked filled lower w o names mandatory remaining) (name : String)
    (ref : SetRef) :
    Tracked filled lower w (withTable o (put lower (table o) name ref)) names mandatory
      (left w ref (lower name) mandatory remaining) := by
  have lookup (m : String) : (withTable o
      (LibraryFoldedNames.put lower (table o) name ref)).lowerCasedAttributes.lookup m =
        if m = lower name then some (spelling lower (table o) name, ref)
        else o.lowerCasedAttributes.lookup m := by
    by_cases hm : m = lower name
    · subst hm
      rw [if_pos rfl]
      exact Finmap.lookup_insert _
    · rw [if_neg hm]
      exact Finmap.lookup_insert_of_ne _ hm
  constructor
  · exact h.mandatory_iff
  · intro m hm
    by_cases hself : m = lower name
    · subst hself
      by_contra hno
      have hrem : lower name ∉ remaining := fun hr => hno (h.subset hr)
      rw [left, if_neg hno] at hm
      split at hm
      · exact hrem (Finset.mem_of_mem_erase hm)
      · exact hrem hm
    · exact h.subset ((mem_left hself).mp hm)
  · intro m hm hleft
    rw [hasValue, lookup]
    by_cases hself : m = lower name
    · subst hself
      rw [if_pos rfl]
      rw [mem_left_self hm] at hleft
      exact hleft
    · rw [if_neg hself]
      have hrem : decide (m ∉ remaining) = filled := by simpa only [mem_left hself] using hleft
      exact h.tracked m hm hrem

theorem tracked_of_register (hmandatory : ∀ m, m ∈ mandatory ↔ ∃ name ∈ names, lower name = m)
    (hremaining : ∀ m, m ∈ remaining ↔ m ∈ mandatory ∧ hasValue w o m = false) :
    Tracked filled lower w o names mandatory remaining where
  mandatory_iff := hmandatory
  subset m hm := ((hremaining m).mp hm).1
  tracked m hm hleft := by
    rw [← hleft]
    cases hvalue : hasValue w o m with
    | true =>
      have hr : m ∉ remaining := fun hr => by
        have hno := ((hremaining m).mp hr).2
        rw [hvalue] at hno
        cases hno
      exact (decide_eq_true hr).symm
    | false =>
      have hr : m ∈ remaining := (hremaining m).mpr ⟨hm, hvalue⟩
      exact (decide_eq_false (fun hno => hno hr)).symm

/-! ## What one call keeps -/

abbrev Registration (Consumer : Type) := List String × Option Consumer

/-- An entry that waits waits for its last registration. -/
structure Invariant (filled : Bool) (lower : String → String)
    (last : ObjectId → Option (Registration Consumer)) (w : World Consumer) : Prop where
  positive : emptySet < w.next
  allocated : ∀ i, Allocated w (w.objects i)
  awaited : ∀ i consumer, (w.objects i).consumerOnMandatoryAttributesComplete = some consumer →
    ∃ names mandatory remaining, last i = some (names, some consumer) ∧
      Waits (w.objects i) consumer mandatory remaining ∧ remaining ≠ ∅ ∧
      Tracked filled lower w (w.objects i) names mandatory remaining

/-- A consumer that was called is the last registered, with no name left. -/
def Accepts (filled : Bool) (lower : String → String)
    (last : ObjectId → Option (Registration Consumer)) (w w' : World Consumer) : Prop :=
  w'.accepted = w.accepted ∨ ∃ i consumer names mandatory,
    w'.accepted = w.accepted ++ [(i, consumer)] ∧ last i = some (names, some consumer) ∧
    Tracked filled lower w' (w'.objects i) names mandatory ∅

variable {last last' : ObjectId → Option (Registration Consumer)}

theorem Steady.of_sets (h : ∀ ref < w.next, w'.sets ref = w.sets ref) : Steady filled w w' := by
  intro ref hlt hfilled
  rw [hasElements, h ref hlt]
  exact hfilled

/-- Sets may be built and changed, and ranges read. -/
theorem Invariant.kept (inv : Invariant filled lower last w) (hnext : w.next ≤ w'.next)
    (steady : Steady filled w w')
    (kept : ∀ i, ∃ ranges, w'.objects i = withRanges (w.objects i) ranges) :
    Invariant filled lower last w' where
  positive := Nat.lt_of_lt_of_le inv.positive hnext
  allocated i := by
    obtain ⟨ranges, hi⟩ := kept i
    rw [hi]
    intro name entry hl
    exact Nat.lt_of_lt_of_le (inv.allocated i name entry hl) hnext
  awaited i consumer hc := by
    obtain ⟨ranges, hi⟩ := kept i
    rw [hi] at hc ⊢
    obtain ⟨names, mandatory, remaining, hlast, waits, hne, tracked⟩ := inv.awaited i consumer hc
    exact ⟨names, mandatory, remaining, hlast, ⟨waits.consumer, waits.mandatory, waits.remaining⟩,
      hne, tracked.steady (inv.allocated i) steady rfl⟩

theorem Allocated.put (h : Allocated w o) (lower : String → String) (name : String) {ref : SetRef}
    (hlt : ref < w.next) : Allocated w (withTable o (put lower (table o) name ref)) := by
  intro name' entry hl
  have hput : ((table o).folded.insert (lower name)
      (spelling lower (table o) name, ref)).lookup name' = some entry := hl
  by_cases hself : name' = lower name
  · rw [hself, Finmap.lookup_insert] at hput
    cases hput
    exact hlt
  · rw [Finmap.lookup_insert_of_ne _ hself] at hput
    exact h name' entry hput

/-- Whatever becomes of one entry, the others are as they were. -/
theorem Invariant.update (inv : Invariant filled lower last w)
    (accepted : List (ObjectId × Consumer)) (hothers : ∀ i, i ≠ this → last' i = last i)
    (ha : Allocated w o)
    (hthis : ∀ consumer, o.consumerOnMandatoryAttributesComplete = some consumer →
      ∃ names mandatory remaining, last' this = some (names, some consumer) ∧
        Waits o consumer mandatory remaining ∧ remaining ≠ ∅ ∧
        Tracked filled lower w o names mandatory remaining) :
    Invariant filled lower last'
      { w with objects := Function.update w.objects this o, accepted := accepted } := by
  have elsewhere (i : ObjectId) (hi : i ≠ this) :
      Function.update w.objects this o i = w.objects i := Function.update_of_ne hi o w.objects
  refine ⟨inv.positive, fun i => ?_, fun i consumer hc => ?_⟩
  · by_cases hi : i = this
    · subst hi
      simp only [Function.update_self]
      exact ha
    · simp only [elsewhere i hi]
      exact inv.allocated i
  · by_cases hi : i = this
    · subst hi
      simp only [Function.update_self] at hc ⊢
      obtain ⟨names, mandatory, remaining, hlast, waits, hne, tracked⟩ := hthis consumer hc
      exact ⟨names, mandatory, remaining, hlast, waits, hne,
        tracked.steady ha (Steady.of_sets fun _ _ => rfl) rfl⟩
    · simp only [elsewhere i hi] at hc ⊢
      obtain ⟨names, mandatory, remaining, hlast, waits, hne, tracked⟩ := inv.awaited i consumer hc
      exact ⟨names, mandatory, remaining, (hothers i hi).trans hlast, waits, hne,
        tracked.steady (inv.allocated i) (Steady.of_sets fun _ _ => rfl) rfl⟩

/-- The entry settles: it is done and its consumer was called, or it waits on. -/
theorem Invariant.settles (inv : Invariant filled lower last w) {consumer : Option Consumer}
    (hothers : ∀ i, i ≠ this → last' i = last i) (ha : Allocated w o)
    (hlast : ∀ c, consumer = some c → last' this = some (names, some c))
    (tracked : Tracked filled lower w o names mandatory remaining) :
    Invariant filled lower last' (settle w this o consumer mandatory remaining).2 ∧
      Accepts filled lower last' w (settle w this o consumer mandatory remaining).2 := by
  simp only [settle]
  by_cases hleft : remaining = ∅
  · subst hleft
    rw [if_pos rfl]
    cases consumer with
    | none =>
      refine ⟨inv.update w.accepted hothers (o := concluded o) ha ?_, Or.inl rfl⟩
      intro c hc
      cases hc
    | some c =>
      refine ⟨inv.update (w.accepted ++ [(this, c)]) hothers (o := concluded o) ha ?_, Or.inr ?_⟩
      · intro c' hc
        cases hc
      · refine ⟨this, c, names, mandatory, rfl, hlast c rfl, ?_⟩
        simp only [Function.update_self]
        exact tracked.steady ha (Steady.of_sets fun _ _ => rfl) rfl
  · rw [if_neg hleft]
    refine ⟨inv.update w.accepted hothers (o := awaiting o consumer mandatory remaining) ha ?_,
      Or.inl rfl⟩
    intro c hc
    exact ⟨names, mandatory, remaining, hlast c hc, ⟨hc, rfl, rfl⟩, hleft,
      tracked.steady ha (Steady.of_sets fun _ _ => rfl) rfl⟩

theorem Invariant.setAttribute (inv : Invariant filled lower last w) {name : String}
    {ref : Option SetRef} (hlt : ref.getD emptySet < w.next) :
    Invariant filled lower last (exec (setAttribute lower this name ref) w).2 ∧
      Accepts filled lower last w (exec (setAttribute lower this name ref) w).2 := by
  have ha := (inv.allocated this).put lower name hlt
  cases hconsumer : (w.objects this).consumerOnMandatoryAttributesComplete with
  | none =>
    rw [exec_setAttribute_idle hconsumer]
    refine ⟨inv.update w.accepted (fun _ _ => rfl) ha ?_, Or.inl rfl⟩
    intro c hc
    rw [withTable, hconsumer] at hc
    cases hc
  | some consumer =>
    obtain ⟨names, mandatory, remaining, hlast, waits, hne, tracked⟩ :=
      inv.awaited this consumer hconsumer
    rw [exec_setAttribute_waits waits]
    refine inv.settles (fun _ _ => rfl) ha ?_ (tracked.put name _)
    intro c hc
    cases hc
    exact hlast

/-! ## Over any calls -/

/-- With `filled`, callers empty no set that has values. Without, neither a caller nor a range
read gives values to a set that has none. -/
def KeepsSets (filled : Bool) (w : World Consumer) : Call Consumer → Prop
  | .changeSet ref values => hasElements w ref = filled → decide (values.elems ≠ []) = filled
  | .populateRangedAttribute this obj name => filled = false → ∀ ref newValues,
      (w.objects this).attributes.lookup name = some ref →
      (w.objects obj).attributes.lookup name = some newValues →
      hasElements w ref = false → hasElements w newValues = false
  | _ => True

def registeredBy (i : ObjectId) : Call Consumer → List (Registration Consumer)
  | .executeOnMandatoryAttributesComplete this names consumer =>
    if this = i then [(names.getD [], consumer)] else []
  | _ => []

/-- The registrations with the entry, in order. -/
def registrations (calls : List (Call Consumer)) (i : ObjectId) : List (Registration Consumer) :=
  calls.flatMap (registeredBy i)

def lastRegistration (calls : List (Call Consumer)) (i : ObjectId) :
    Option (Registration Consumer) := (registrations calls i).getLast?

theorem lastRegistration_concat (calls : List (Call Consumer)) (call : Call Consumer)
    (h : registeredBy i call = []) :
    lastRegistration (calls ++ [call]) i = lastRegistration calls i := by
  simp [lastRegistration, registrations, h]

theorem addAll_elements {s : ValueSet} {values : List String} (h : s.elems ≠ []) :
    (s.addAll values).elems ≠ [] := by
  obtain ⟨v, hv⟩ := List.exists_mem_of_ne_nil _ h
  have hidentifies : Identifies (id : String → String) (s.elems ++ values) := fun _ _ _ _ hk => hk
  exact List.ne_nil_of_mem ((KeyedSet.mem_addAll hidentifies).mpr (Or.inl hv))

theorem steady_grown {ref newValues : SetRef}
    (h : filled = false → hasElements w ref = false → hasElements w newValues = false)
    (w' : World Consumer) (hw : w'.sets = grown w ref (w.sets newValues).elems) :
    Steady filled w w' := by
  intro ref' hlt hfilled
  rw [hasElements, hw, grown]
  by_cases hempty : ref = emptySet
  · rw [if_pos hempty]
    exact hfilled
  rw [if_neg hempty]
  by_cases hself : ref' = ref
  · subst hself
    rw [Function.update_self]
    cases filled with
    | true => exact decide_eq_true (addAll_elements (of_decide_eq_true hfilled))
    | false =>
      have hnone : (w.sets newValues).elems = [] := by
        have hvalues := h rfl hfilled
        simpa [hasElements] using hvalues
      rw [hnone]
      exact hfilled
  · rw [Function.update_of_ne hself]
    exact hfilled

theorem Invariant.populateRangedAttribute (inv : Invariant filled lower last w) {obj : ObjectId}
    {name : String} (keeps : KeepsSets filled w (.populateRangedAttribute this obj name)) :
    Invariant filled lower last (exec (populateRangedAttribute this obj name) w).2 := by
  cases hother : (w.objects obj).attributes.lookup name with
  | none => rwa [exec_populateRangedAttribute_absent (Or.inl hother)]
  | some newValues =>
    cases hmine : (w.objects this).attributes.lookup name with
    | none => rwa [exec_populateRangedAttribute_absent (Or.inr hmine)]
    | some values =>
      rw [exec_populateRangedAttribute hother hmine]
      by_cases refused : values = emptySet ∧ (w.sets newValues).elems ≠ []
      · rwa [if_pos refused]
      rw [if_neg refused]
      have steady : Steady filled w { w with sets := grown w values (w.sets newValues).elems } :=
        steady_grown (fun hf => keeps hf values newValues hmine hother) _ rfl
      refine inv.kept (Nat.le_refl _) steady fun i => ?_
      by_cases hi : i = this
      · subst hi
        exact ⟨_, Function.update_self ..⟩
      · exact ⟨_, Function.update_of_ne hi ..⟩

/-- One call, whatever it is. -/
theorem call_keeps (calls : List (Call Consumer)) (call : Call Consumer)
    (inv : Invariant filled lower (lastRegistration calls) w) (held : Held w call)
    (keeps : KeepsSets filled w call) :
    Invariant filled lower (lastRegistration (calls ++ [call])) ((directory lower).next w call) ∧
      Accepts filled lower (lastRegistration (calls ++ [call])) w
        ((directory lower).next w call) := by
  have same (h : ∀ i, registeredBy i call = []) :
      lastRegistration (calls ++ [call]) = lastRegistration calls :=
    funext fun i => lastRegistration_concat calls call (h i)
  have built (values : List String) : Invariant filled lower (lastRegistration calls)
      (exec (newSet values) w).2 := by
    refine inv.kept (Nat.le_succ _) (Steady.of_sets fun ref hlt => ?_) fun i => ⟨_, rfl⟩
    exact Function.update_of_ne (Nat.ne_of_lt hlt) _ _
  cases call with
  | newSet values =>
    rw [same fun _ => rfl]
    exact ⟨built values, Or.inl rfl⟩
  | changeSet ref values =>
    rw [same fun _ => rfl]
    refine ⟨inv.kept (Nat.le_refl _) ?_ fun i => ⟨_, rfl⟩, Or.inl rfl⟩
    intro ref' _ hfilled
    by_cases hself : ref' = ref
    · subst hself
      have hvalues := keeps hfilled
      simpa [directory, body, hasElements] using hvalues
    · simpa [directory, body, hasElements, hself] using hfilled
  | setSingleAttribute this name value =>
    rw [same fun _ => rfl]
    have inv' := built value.toList
    simp only [directory, body, setSingleAttribute, exec_bind, exec_newSet, andThen_ok] at inv' ⊢
    have hfresh : (some w.next).getD emptySet < w.next + 1 := Nat.lt_succ_self w.next
    exact inv'.setAttribute hfresh
  | setAttribute this name ref =>
    rw [same fun _ => rfl]
    refine inv.setAttribute ?_
    cases ref with
    | none => exact inv.positive
    | some ref => exact held
  | executeOnMandatoryAttributesComplete this names consumer =>
    obtain ⟨mandatory, remaining, hexec, hmandatory, hremaining⟩ :=
      exec_register lower this names consumer w
    simp only [directory, body, hexec]
    refine inv.settles ?_ (inv.allocated this) ?_
      (tracked_of_register hmandatory hremaining)
    · intro i hi
      exact lastRegistration_concat calls _ (if_neg (Ne.symm hi))
    · intro c hc
      subst hc
      simp [lastRegistration, registrations, registeredBy]
  | addRangedAttribute this name max =>
    rw [same fun _ => rfl]
    simp only [directory, body, exec_addRangedAttribute]
    refine ⟨inv.kept (Nat.le_refl _) (Steady.of_sets fun _ _ => rfl) fun i => ?_, Or.inl rfl⟩
    by_cases hi : i = this
    · subst hi
      exact ⟨_, Function.update_self ..⟩
    · exact ⟨_, Function.update_of_ne hi ..⟩
  | populateRangedAttribute this obj name =>
    rw [same fun _ => rfl]
    refine ⟨inv.populateRangedAttribute keeps, Or.inl ?_⟩
    obtain ⟨r, sets, ranges, hexec⟩ := populateRangedAttribute_frame this obj name w
    simp only [directory, body, hexec]

theorem invariant_start :
    Invariant filled lower (lastRegistration []) (start : World Consumer) where
  positive := Nat.zero_lt_succ emptySet
  allocated i name entry hl := by cases hl
  awaited i consumer hc := by cases hc

theorem invariant_run {calls : List (Call Consumer)} (held : (directory lower).Valid start calls)
    (keeps : (directory lower).Along (KeepsSets filled) start calls) :
    Invariant filled lower (lastRegistration calls) ((directory lower).run start calls) :=
  Machine.run_history (I := fun before w => Invariant filled lower (lastRegistration before) w)
    (fun before _ call inv h k => (call_keeps before call inv h k).1) invariant_start held keeps

/-- The consumer was called at the end of these calls, as the last one registered and with a
value for every attribute it was registered for. -/
def CalledComplete (lower : String → String) (calls : List (Call Consumer)) (call : Call Consumer)
    (i : ObjectId) (consumer : Consumer) : Prop :=
  let w := (directory lower).run start calls
  let w' := (directory lower).next w call
  w'.accepted = w.accepted ++ [(i, consumer)] ∧
    ∃ names, lastRegistration (calls ++ [call]) i = some (names, some consumer) ∧
      ∀ name ∈ names, hasValue w' (w'.objects i) (lower name) = true

/-- Where callers empty no set that has values, every call of a run calls no consumer or calls
one, which is then the last registered and has a value for every attribute it asked for. -/
theorem called_when_complete (lower : String → String) (calls : List (Call Consumer))
    (held : (directory lower).Valid start calls)
    (keeps : (directory lower).Along (KeepsSets true) start calls) :
    ∀ before call after, calls = before ++ call :: after →
      ((directory lower).next ((directory lower).run start before) call).accepted =
          ((directory lower).run start before).accepted ∨
        ∃ i consumer, CalledComplete lower before call i consumer := by
  rintro before call after rfl
  obtain ⟨hheld, hcall, _⟩ := Machine.along_append.mp held
  obtain ⟨hkeeps, hkeep, _⟩ := Machine.along_append.mp keeps
  have hstep := (call_keeps before call (invariant_run hheld hkeeps) hcall hkeep).2
  rcases hstep with hsame | ⟨i, consumer, names, mandatory, happend, hlast, tracked⟩
  · exact Or.inl hsame
  · refine Or.inr ⟨i, consumer, happend, names, hlast, fun name hname => ?_⟩
    have hm : lower name ∈ mandatory := (tracked.mandatory_iff _).mpr ⟨name, hname, rfl⟩
    exact tracked.tracked (lower name) hm (decide_eq_true (Finset.notMem_empty _))

/-- Two mandatory names; the mail is set, taken away and set again before the user id comes. -/
def mailOnly : List (Call ℕ) :=
  [.executeOnMandatoryAttributesComplete 0 (some ["uid", "mail"]) (some 7),
    .setSingleAttribute 0 "mail" (some "j@x"), .setAttribute 0 "mail" none,
    .setSingleAttribute 0 "mail" (some "j@x")]

def setUid : Call ℕ := .setSingleAttribute 0 "uid" (some "joe")

/-- The consumer is registered and called a second time once all is there. -/
def mailThenUid : List (Call ℕ) :=
  mailOnly ++ setUid :: [.executeOnMandatoryAttributesComplete 0 (some ["uid"]) (some 7)]

theorem uid_completes : ∃ i consumer, CalledComplete id mailOnly setUid i consumer := by
  have hsplits := called_when_complete id mailThenUid
    (by simp [Machine.Valid, mailThenUid, mailOnly, setUid, Machine.Along, directory, Held])
    (by simp [mailThenUid, mailOnly, setUid, Machine.Along, KeepsSets])
  rcases hsplits mailOnly setUid _ rfl with hsame | hcalled
  · have hcall : ((directory id).next ((directory id).run start mailOnly) setUid).accepted =
        [(0, 7)] := by decide
    rw [hcall] at hsame
    exact absurd hsame (by decide)
  · exact hcalled

/-- Where no set without values is given any behind the back of an entry, an entry that waits
has a reason to: the last registration names an attribute that has no value. -/
theorem waits_for_missing (lower : String → String) (calls : List (Call Consumer))
    (held : (directory lower).Valid start calls)
    (keeps : (directory lower).Along (KeepsSets false) start calls) (i : ObjectId)
    (waiting : isWaitingForExecutionOnMandatoryAttributesComplete
      (((directory lower).run start calls).objects i) = true) :
    ∃ names consumer, lastRegistration calls i = some (names, some consumer) ∧
      ∃ name ∈ names, hasValue ((directory lower).run start calls)
        (((directory lower).run start calls).objects i) (lower name) = false := by
  obtain ⟨consumer, hc⟩ := Option.isSome_iff_exists.mp waiting
  obtain ⟨names, mandatory, remaining, hlast, _, hne, tracked⟩ :=
    (invariant_run held keeps).awaited i consumer hc
  obtain ⟨m, hleft⟩ := Finset.nonempty_iff_ne_empty.mpr hne
  have hm := tracked.subset hleft
  obtain ⟨name, hname, rfl⟩ := (tracked.mandatory_iff m).mp hm
  exact ⟨names, consumer, hlast, name, hname,
    tracked.tracked (lower name) hm (decide_eq_false (fun hno => hno hleft))⟩

theorem uid_missing : ∃ name ∈ ["uid", "mail"], hasValue ((directory id).run start mailOnly)
    (((directory id).run start mailOnly).objects 0) name = false := by
  have waiting : isWaitingForExecutionOnMandatoryAttributesComplete
      (((directory id).run start mailOnly).objects 0) = true := by decide
  obtain ⟨names, consumer, hlast, hmissing⟩ := waits_for_missing id mailOnly
    (by simp [Machine.Valid, mailOnly, Machine.Along, directory, Held])
    (by simp [mailOnly, Machine.Along, KeepsSets]) 0 waiting
  cases hlast
  exact hmissing

/-! ## At most once -/

/-- The calls of consumers of the entry, made and still to be made. -/
def pending (i : ObjectId) (w : World Consumer) : ℕ :=
  w.accepted.countP (fun call => decide (call.1 = i)) +
    if isWaitingForExecutionOnMandatoryAttributesComplete (w.objects i) then 1 else 0

theorem pending_congr {w w' : World Consumer} (haccepted : w'.accepted = w.accepted)
    (hconsumer : (w'.objects i).consumerOnMandatoryAttributesComplete =
      (w.objects i).consumerOnMandatoryAttributesComplete) : pending i w' = pending i w := by
  rw [pending, pending, isWaitingForExecutionOnMandatoryAttributesComplete,
    isWaitingForExecutionOnMandatoryAttributesComplete, haccepted, hconsumer]

theorem consumer_update {o : LDAPObject Consumer} (hsame :
      o.consumerOnMandatoryAttributesComplete =
        (w.objects this).consumerOnMandatoryAttributesComplete) (i : ObjectId) :
    (Function.update w.objects this o i).consumerOnMandatoryAttributesComplete =
      (w.objects i).consumerOnMandatoryAttributesComplete := by
  by_cases hi : i = this
  · subst hi
    rw [Function.update_self, hsame]
  · rw [Function.update_of_ne hi]

theorem executeConsumer_pending (this i : ObjectId) (w : World Consumer) :
    pending i (exec (executeConsumerOnMandatoryAttributesComplete this) w).2 ≤ pending i w := by
  simp only [executeConsumerOnMandatoryAttributesComplete, exec_bind, exec_getObject, andThen_ok]
  cases (w.objects this).mandatoryAttributeNamesRemaining with
  | none => exact Nat.le_refl _
  | some remaining =>
    simp only [exec_nonNull_some, andThen_ok, exec_ite]
    split
    · simp only [exec_bind, exec_setObject, andThen_ok]
      by_cases hi : i = this
      · subst hi
        cases hc : (w.objects i).consumerOnMandatoryAttributesComplete with
        | none => simp [pending, isWaitingForExecutionOnMandatoryAttributesComplete]
        | some consumer =>
          -- the wait becomes a call
          simp [pending, isWaitingForExecutionOnMandatoryAttributesComplete, hc]
      · cases (w.objects this).consumerOnMandatoryAttributesComplete with
        | none => simp [pending, Function.update_of_ne hi]
        | some consumer => simp [pending, Function.update_of_ne hi, Ne.symm hi]
    · exact Nat.le_refl _

theorem updateRemaining_pending (this i : ObjectId) (name : String) (ref : SetRef)
    (w : World Consumer) :
    pending i (exec (updateRemaining this name ref) w).2 ≤ pending i w := by
  have put (o : LDAPObject Consumer) (hsame : o.consumerOnMandatoryAttributesComplete =
      (w.objects this).consumerOnMandatoryAttributesComplete) :
      pending i (exec (executeConsumerOnMandatoryAttributesComplete this)
        { w with objects := Function.update w.objects this o }).2 ≤ pending i w := by
    have hput := executeConsumer_pending this i
      { w with objects := Function.update w.objects this o }
    exact Nat.le_trans hput (Nat.le_of_eq (pending_congr rfl (consumer_update hsame i)))
  simp only [updateRemaining, exec_bind, exec_get, exec_getObject, andThen_ok, exec_ite]
  cases hc : (w.objects this).consumerOnMandatoryAttributesComplete with
  | none => exact Nat.le_refl _
  | some consumer =>
    simp only [Option.isSome_some, if_true]
    split
    · cases (w.objects this).mandatoryAttributeNamesRemaining with
      | none => exact Nat.le_refl _
      | some remaining => exact put _ hc.symm
    · cases (w.objects this).mandatoryAttributeNames with
      | none => exact Nat.le_refl _
      | some mandatory =>
        simp only [exec_nonNull_some, andThen_ok, exec_ite]
        split
        · cases (w.objects this).mandatoryAttributeNamesRemaining with
          | none => exact Nat.le_refl _
          | some remaining => exact put _ hc.symm
        · exact executeConsumer_pending this i w

theorem setAttribute_pending (lower : String → String) (this i : ObjectId) (name : String)
    (ref : Option SetRef) (w : World Consumer) :
    pending i (exec (setAttribute lower this name ref) w).2 ≤ pending i w := by
  simp only [setAttribute, exec_bind, exec_putAttribute, andThen_ok]
  apply Nat.le_trans (updateRemaining_pending this i (lower name) (ref.getD emptySet) _)
  apply Nat.le_of_eq
  apply pending_congr
  · rfl
  · apply consumer_update
    rfl

theorem register_pending (lower : String → String) (this i : ObjectId)
    (names : Option (List String)) (consumer : Option Consumer) (w : World Consumer) :
    pending i (exec (executeOnMandatoryAttributesComplete lower this names consumer) w).2 ≤
      pending i w + if this = i ∧ consumer.isSome then 1 else 0 := by
  simp only [executeOnMandatoryAttributesComplete, exec_bind, exec_get, exec_getObject,
    exec_setObject, andThen_ok]
  apply Nat.le_trans (executeConsumer_pending this i _)
  by_cases hi : this = i
  · subst hi
    cases consumer with
    | none =>
      -- without a consumer the entry waits no longer
      simp [pending, isWaitingForExecutionOnMandatoryAttributesComplete]
    | some consumer =>
      -- the entry may start to wait
      simp [pending, isWaitingForExecutionOnMandatoryAttributesComplete]
  · apply Nat.le_of_eq
    rw [if_neg (fun h => hi h.1)]
    apply pending_congr
    · rfl
    · exact congrArg _ (Function.update_of_ne (Ne.symm hi) _ _)

theorem call_pending (lower : String → String) (i : ObjectId) (w : World Consumer)
    (call : Call Consumer) :
    pending i ((directory lower).next w call) ≤
      pending i w + (registeredBy i call).countP (·.2.isSome) := by
  cases call with
  | newSet values => exact Nat.le_refl _
  | changeSet ref values => exact Nat.le_refl _
  | setSingleAttribute this name value =>
    exact setAttribute_pending lower this i name (some w.next) (exec (newSet value.toList) w).2
  | setAttribute this name ref => exact setAttribute_pending lower this i name ref w
  | executeOnMandatoryAttributesComplete this names consumer =>
    have hcount : (registeredBy i
        (.executeOnMandatoryAttributesComplete this names consumer)).countP (·.2.isSome) =
          if this = i ∧ consumer.isSome then 1 else 0 := by
      rw [registeredBy]
      by_cases hi : this = i
      · simp [hi, List.countP_singleton]
      · simp [hi]
    rw [hcount]
    exact register_pending lower this i names consumer w
  | addRangedAttribute this name max =>
    simp only [directory, body, exec_addRangedAttribute]
    apply Nat.le_of_eq
    apply pending_congr
    · rfl
    · apply consumer_update
      rfl
  | populateRangedAttribute this obj name =>
    obtain ⟨r, sets, ranges, hexec⟩ := populateRangedAttribute_frame this obj name w
    simp only [directory, body, hexec]
    apply Nat.le_of_eq
    apply pending_congr
    · rfl
    · apply consumer_update
      rfl

/-- Whatever is called, the consumers of an entry are called at most as often as consumers were
registered with it, and one less while the entry waits. -/
theorem called_at_most_once (lower : String → String) (calls : List (Call Consumer))
    (i : ObjectId) :
    (((directory lower).run start calls).accepted.countP fun call => decide (call.1 = i)) +
      (if isWaitingForExecutionOnMandatoryAttributesComplete
        (((directory lower).run start calls).objects i) then 1 else 0) ≤
      (registrations calls i).countP (·.2.isSome) := by
  induction calls using List.reverseRecOn with
  | nil => exact Nat.le_refl 0
  | append_singleton calls call ih =>
    have hstep := call_pending lower i ((directory lower).run start calls) call
    have hlast : (directory lower).run start (calls ++ [call]) =
        (directory lower).next ((directory lower).run start calls) call := Machine.run_append ..
    rw [hlast, registrations, List.flatMap_append, List.countP_append, List.flatMap_singleton]
    rw [registrations] at ih
    simp only [pending] at hstep
    omega

end LdapObjectMandatory
