import KeycloakExtensions.LdapObject

/-! # Names up to their case

The two maps of an entry are one table keyed by lower-cased names. Over any calls to any entries
it holds, under every such name, the spelling that came first and the set that came last; how
names are lower-cased does not matter. -/
namespace LdapObjectNames

open KeycloakModel LibraryEffects LibraryFoldedNames LibraryKeyedSet LibraryRuns LdapObject

variable {Consumer : Type} {lower : String → String} {w : World Consumer} {this i : ObjectId}

/-! ## What one execution does -/

@[simp] theorem exec_getObject (this : ObjectId) (w : World Consumer) :
    exec (getObject this) w = (.ok (w.objects this), w) := rfl

@[simp] theorem exec_setObject (this : ObjectId) (o : LDAPObject Consumer) (w : World Consumer) :
    exec (setObject this o) w =
      (.ok (), { w with objects := Function.update w.objects this o }) := rfl

@[simp] theorem exec_newSet (values : List String) (w : World Consumer) :
    exec (newSet values) w = (.ok w.next,
      { w with
        sets := Function.update w.sets w.next (KeyedSet.ofList id values)
        next := w.next + 1 }) := rfl

@[simp] theorem exec_nonNull_some {α : Type} (a : α) (w : World Consumer) :
    exec (nonNull (some a)) w = (.ok a, w) := rfl

@[simp] theorem exec_nonNull_none {α : Type} (w : World Consumer) :
    exec (nonNull (none : Option α)) w = (.error .nullPointer, w) := rfl

def table (o : LDAPObject Consumer) : FoldedTable String String SetRef :=
  ⟨o.attributes, o.lowerCasedAttributes⟩

/-- The entry with other puts, the rest of it as before. -/
def withTable (o : LDAPObject Consumer) (t : FoldedTable String String SetRef) :
    LDAPObject Consumer :=
  { o with attributes := t.spelled, lowerCasedAttributes := t.folded }

@[simp] theorem table_withTable (o : LDAPObject Consumer)
    (t : FoldedTable String String SetRef) : table (withTable o t) = t := rfl

/-- Both branches of the puts are one put into the table. -/
@[simp] theorem exec_putAttribute (this : ObjectId) (name : String) (ref : SetRef)
    (w : World Consumer) :
    exec (putAttribute lower this name ref) w =
      (.ok (), { w with
        objects := Function.update w.objects this
          (withTable (w.objects this) (put lower (table (w.objects this)) name ref)) }) := by
  simp only [putAttribute, exec_bind, exec_getObject, andThen_ok]
  cases hl : (w.objects this).lowerCasedAttributes.lookup (lower name) with
  | none =>
    have hs : spelling lower (table (w.objects this)) name = name := by
      simp [spelling, table, hl]
    simp only [put, withTable, hs, exec_setObject]
    rfl
  | some entry =>
    have hs : spelling lower (table (w.objects this)) name = entry.1 := by
      simp [spelling, table, hl]
    simp only [put, withTable, hs, exec_setObject]
    rfl

/-! ## What leaves the tables alone -/

/-- No entry has other attributes than before. -/
def TablesKept (x : LdapM Consumer Unit) : Prop :=
  ∀ w i, table ((exec x w).2.objects i) = table (w.objects i)

theorem table_update {o : LDAPObject Consumer} {w : World Consumer}
    (h : table o = table (w.objects this)) (i : ObjectId) :
    table (Function.update w.objects this o i) = table (w.objects i) := by
  by_cases hi : i = this
  · subst hi
    rw [Function.update_self, h]
  · rw [Function.update_of_ne hi]

theorem executeConsumer_tablesKept (this : ObjectId) :
    TablesKept (executeConsumerOnMandatoryAttributesComplete this : LdapM Consumer Unit) := by
  intro w i
  simp only [executeConsumerOnMandatoryAttributesComplete, exec_bind, exec_getObject, andThen_ok]
  cases (w.objects this).mandatoryAttributeNamesRemaining with
  | none => rfl
  | some remaining =>
    simp only [exec_nonNull_some, andThen_ok, exec_ite]
    split
    · simp only [exec_bind, exec_setObject, andThen_ok]
      cases (w.objects this).consumerOnMandatoryAttributesComplete with
      | none =>
        refine table_update ?_ i
        rfl
      | some consumer =>
        refine table_update ?_ i
        rfl
    · rfl

theorem updateRemaining_tablesKept (this : ObjectId) (name : String) (ref : SetRef) :
    TablesKept (updateRemaining this name ref : LdapM Consumer Unit) := by
  intro w i
  have concluded (o : LDAPObject Consumer) (h : table o = table (w.objects this)) :
      table ((exec (executeConsumerOnMandatoryAttributesComplete this)
        { w with objects := Function.update w.objects this o }).2.objects i) =
        table (w.objects i) := by
    rw [executeConsumer_tablesKept]
    exact table_update h i
  simp only [updateRemaining, exec_bind, exec_get, exec_getObject, andThen_ok, exec_ite]
  cases (w.objects this).consumerOnMandatoryAttributesComplete with
  | none => rfl
  | some consumer =>
    simp only [Option.isSome_some, if_true]
    split
    · cases (w.objects this).mandatoryAttributeNamesRemaining with
      | none => rfl
      | some remaining => exact concluded _ rfl
    · cases (w.objects this).mandatoryAttributeNames with
      | none => rfl
      | some mandatory =>
        simp only [exec_nonNull_some, andThen_ok, exec_ite]
        split
        · cases (w.objects this).mandatoryAttributeNamesRemaining with
          | none => rfl
          | some remaining => exact concluded _ rfl
        · exact executeConsumer_tablesKept this w i

theorem register_tablesKept (this : ObjectId) (names : Option (List String))
    (consumer : Option Consumer) :
    TablesKept (executeOnMandatoryAttributesComplete lower this names consumer) := by
  intro w i
  simp only [executeOnMandatoryAttributesComplete, exec_bind, exec_get, exec_getObject,
    exec_setObject, andThen_ok]
  rw [executeConsumer_tablesKept]
  refine table_update ?_ i
  rfl

/-- The ranges with one read up to `max`. -/
def raised (ranges : Finmap fun _ : String => ℤ) (name : String) (max : ℤ) :
    Finmap fun _ : String => ℤ :=
  match ranges.lookup name with
  | none => ranges.insert name max
  | some current => if current < max then ranges.insert name max else ranges

/-- The entry with other ranges, the rest of it as before. -/
def withRanges (o : LDAPObject Consumer) (ranges : Finmap fun _ : String => ℤ) :
    LDAPObject Consumer := { o with rangedAttributes := ranges }

theorem exec_addRangedAttribute (this : ObjectId) (name : String) (max : ℤ)
    (w : World Consumer) :
    exec (addRangedAttribute this name max) w = (.ok (), { w with
      objects := Function.update w.objects this
        (withRanges (w.objects this) (raised (w.objects this).rangedAttributes name max)) }) := by
  have unchanged : withRanges (w.objects this) (w.objects this).rangedAttributes =
      w.objects this := rfl
  simp only [addRangedAttribute, exec_bind, exec_getObject, andThen_ok, raised]
  cases (w.objects this).rangedAttributes.lookup name with
  | none => rfl
  | some current =>
    simp only [exec_ite]
    by_cases hmax : current < max
    · rw [if_pos hmax, if_pos hmax]
      rfl
    · rw [if_neg hmax, if_neg hmax, unchanged, Function.update_eq_self]
      rfl

/-- The sets after values were added to one of them. -/
def grown (w : World Consumer) (ref : SetRef) (values : List String) : SetRef → ValueSet :=
  if ref = emptySet then w.sets else Function.update w.sets ref ((w.sets ref).addAll values)

theorem exec_addAll (ref : SetRef) (values : List String) (w : World Consumer) :
    exec (addAll ref values) w =
      if ref = emptySet ∧ values ≠ [] then (.error unsupportedOperation, w)
      else (.ok (), { w with sets := grown w ref values }) := by
  rw [addAll, grown]
  by_cases hempty : ref = emptySet
  · by_cases hvalues : values = []
    · rw [if_pos hempty, if_pos hvalues, if_neg (fun h => h.2 hvalues), if_pos hempty]
      rfl
    · rw [if_pos hempty, if_neg hvalues, if_pos ⟨hempty, hvalues⟩]
      rfl
  · rw [if_neg hempty, if_neg (fun h => hempty h.1), if_neg hempty]
    rfl

/-- The ranges of an entry that was given one range of the other entry. -/
def mergedRanges (mine other : LDAPObject Consumer) (name : String) :
    Finmap fun _ : String => ℤ :=
  match other.rangedAttributes.lookup name with
  | some currentRange => raised mine.rangedAttributes name currentRange
  | none => mine.rangedAttributes.erase name

theorem exec_populateRangedAttribute {this obj : ObjectId} {name : String}
    {newValues values : SetRef} (hother : (w.objects obj).attributes.lookup name = some newValues)
    (hmine : (w.objects this).attributes.lookup name = some values) :
    exec (populateRangedAttribute this obj name) w =
      if values = emptySet ∧ (w.sets newValues).elems ≠ [] then (.error unsupportedOperation, w)
      else (.ok (), { w with
        sets := grown w values (w.sets newValues).elems
        objects := Function.update w.objects this
          (withRanges (w.objects this)
            (mergedRanges (w.objects this) (w.objects obj) name)) }) := by
  simp only [populateRangedAttribute, exec_bind, exec_get, exec_getObject, andThen_ok, hother,
    hmine, exec_addAll]
  by_cases refused : values = emptySet ∧ (w.sets newValues).elems ≠ []
  · rw [if_pos refused, if_pos refused, andThen_error]
  · rw [if_neg refused, if_neg refused, andThen_ok, mergedRanges]
    cases (w.objects obj).rangedAttributes.lookup name with
    | some currentRange => exact exec_addRangedAttribute this name currentRange _
    | none => rfl

/-- Without the attribute on both sides nothing is done. -/
theorem exec_populateRangedAttribute_absent {this obj : ObjectId} {name : String}
    (absent : (w.objects obj).attributes.lookup name = none ∨
      (w.objects this).attributes.lookup name = none) :
    exec (populateRangedAttribute this obj name) w = (.ok (), w) := by
  simp only [populateRangedAttribute, exec_bind, exec_get, exec_getObject, andThen_ok]
  cases hother : (w.objects obj).attributes.lookup name with
  | none => rfl
  | some newValues =>
    have hmine := absent.resolve_left (by simp [hother])
    simp only [exec_bind, exec_getObject, andThen_ok, hmine]
    rfl

/-- Some sets grow and the ranges of one entry change; nothing else does. -/
theorem populateRangedAttribute_frame (this obj : ObjectId) (name : String)
    (w : World Consumer) : ∃ r sets ranges,
      exec (populateRangedAttribute this obj name) w = (r, { w with
        sets := sets
        objects := Function.update w.objects this (withRanges (w.objects this) ranges) }) := by
  have unchanged : Function.update w.objects this
      (withRanges (w.objects this) (w.objects this).rangedAttributes) = w.objects :=
    Function.update_eq_self this w.objects
  cases hother : (w.objects obj).attributes.lookup name with
  | none =>
    refine ⟨.ok (), w.sets, (w.objects this).rangedAttributes, ?_⟩
    rw [exec_populateRangedAttribute_absent (Or.inl hother), unchanged]
  | some newValues =>
    cases hmine : (w.objects this).attributes.lookup name with
    | none =>
      refine ⟨.ok (), w.sets, (w.objects this).rangedAttributes, ?_⟩
      rw [exec_populateRangedAttribute_absent (Or.inr hmine), unchanged]
    | some values =>
      rw [exec_populateRangedAttribute hother hmine]
      by_cases refused : values = emptySet ∧ (w.sets newValues).elems ≠ []
      · refine ⟨.error unsupportedOperation, w.sets, (w.objects this).rangedAttributes, ?_⟩
        rw [if_pos refused, unchanged]
      · exact ⟨_, _, _, if_neg refused⟩

/-! ## Over any calls -/

/-- The set the call hands to the entry, with the name it is handed under. -/
def handedBy (i : ObjectId) (w : World Consumer) : Call Consumer → List (String × SetRef)
  | .setSingleAttribute this name _ => if this = i then [(name, w.next)] else []
  | .setAttribute this name ref => if this = i then [(name, ref.getD emptySet)] else []
  | _ => []

/-- The sets the entry was handed, in order. -/
def handed (lower : String → String) (calls : List (Call Consumer)) (i : ObjectId) :
    List (String × SetRef) := (directory lower).collect (handedBy i) start calls

theorem setAttribute_table (this : ObjectId) (name : String) (ref : Option SetRef)
    (w : World Consumer) (i : ObjectId) :
    table ((exec (setAttribute lower this name ref) w).2.objects i) =
      if this = i then put lower (table (w.objects i)) name (ref.getD emptySet)
      else table (w.objects i) := by
  simp only [setAttribute, exec_bind, exec_putAttribute, andThen_ok]
  rw [updateRemaining_tablesKept]
  by_cases hi : this = i
  · subst hi
    rw [if_pos rfl]
    simp only [Function.update_self, table_withTable]
  · rw [if_neg hi]
    simp only [Function.update_of_ne (Ne.symm hi)]

theorem table_next (lower : String → String) (i : ObjectId) (w : World Consumer)
    (call : Call Consumer) : table (((directory lower).next w call).objects i) =
      (handedBy i w call).foldl (fun t entry => put lower t entry.1 entry.2)
        (table (w.objects i)) := by
  cases call with
  | newSet values => rfl
  | changeSet ref values => rfl
  | setSingleAttribute this name value =>
    simp only [directory, body, setSingleAttribute, handedBy, exec_bind, exec_newSet, andThen_ok]
    rw [setAttribute_table]
    by_cases hi : this = i
    · rw [if_pos hi, if_pos hi]
      rfl
    · rw [if_neg hi, if_neg hi]
      rfl
  | setAttribute this name ref =>
    simp only [directory, body, handedBy]
    rw [setAttribute_table]
    by_cases hi : this = i
    · rw [if_pos hi, if_pos hi]
      rfl
    · rw [if_neg hi, if_neg hi]
      rfl
  | executeOnMandatoryAttributesComplete this names consumer =>
    exact register_tablesKept this names consumer w i
  | addRangedAttribute this name max =>
    simp only [directory, body, handedBy, exec_addRangedAttribute]
    refine table_update ?_ i
    rfl
  | populateRangedAttribute this obj name =>
    obtain ⟨r, sets, ranges, hexec⟩ := populateRangedAttribute_frame this obj name w
    simp only [directory, body, handedBy, hexec]
    refine table_update ?_ i
    rfl

theorem table_run (lower : String → String) (calls : List (Call Consumer)) (i : ObjectId) :
    table (((directory lower).run start calls).objects i) =
      putAll lower (handed lower calls i) :=
  Machine.fold_run (r := fun w : World Consumer => table (w.objects i))
    (table_next lower i) start calls

/-- The one value asked for is the first of the set. -/
theorem getAttributeAsString_eq (lower : String → String) (w : World Consumer)
    (o : LDAPObject Consumer) (name : String) :
    getAttributeAsString lower w o name =
      (getAttributeAsSet lower w o name).bind fun values => values.elems.head? := by
  rw [getAttributeAsString, getAttributeAsSet]
  cases o.lowerCasedAttributes.lookup (lower name) with
  | none => rfl
  | some entry => rfl

/-- Whatever is called on whatever entries: an attribute stands under the spelling in which it
was first handed over, with the set handed over last under any spelling, and reads back under
any spelling; no two attributes differ in case only. -/
theorem attributes_of_history (lower : String → String) (calls : List (Call Consumer))
    (this : ObjectId) (name : String) :
    let w := (directory lower).run start calls
    let puts := putsAt lower (lower name) (handed lower calls this)
    (∀ ref, (w.objects this).attributes.lookup name = some ref ↔
      ∃ first ∈ puts.head?, ∃ last ∈ puts.getLast?, first.1 = name ∧ last.2 = ref) ∧
    getAttributeAsSet lower w (w.objects this) name =
      puts.getLast?.map (fun last => w.sets last.2) ∧
    ∀ name', name ∈ (w.objects this).attributes → name' ∈ (w.objects this).attributes →
      lower name = lower name' → name = name' := by
  intro w puts
  have htable : table (w.objects this) = putAll lower (handed lower calls this) :=
    table_run lower calls this
  have hspelled : (w.objects this).attributes = (putAll lower (handed lower calls this)).spelled :=
    congrArg FoldedTable.spelled htable
  have hfolded : (w.objects this).lowerCasedAttributes =
      (putAll lower (handed lower calls this)).folded := congrArg FoldedTable.folded htable
  refine ⟨fun ref => ?_, ?_, fun name' hn hn' => ?_⟩
  · rw [hspelled]
    exact spelled_putAll (handed lower calls this) name ref
  · have hvalue := congrArg (Option.map w.sets)
      (value_putAll lower (handed lower calls this) (lower name))
    rw [Option.map_map, Option.map_map] at hvalue
    rw [getAttributeAsSet, hfolded]
    exact hvalue
  · rw [hspelled] at hn hn'
    exact (mirrors_putAll (handed lower calls this)).spelling_unique hn hn'

end LdapObjectNames
