import KeycloakExtensions.KeycloakModel
import KeycloakExtensions.LibraryEffects
import KeycloakExtensions.LibraryFoldedNames
import KeycloakExtensions.LibraryKeyedSet
import KeycloakExtensions.LibraryRuns
import Mathlib.Data.Finset.Lattice.Basic

/-! # An entry of the directory

`LDAPObject`: attributes under names that count as one up to their case, attributes read range by
range, and a consumer that waits for the mandatory attributes. Sets of values are Java objects:
the two maps of an entry hold references to them, and so may other entries and the callers. -/
namespace LdapObject

open KeycloakModel LibraryEffects LibraryFoldedNames LibraryKeyedSet LibraryRuns

def unsupportedOperation : JavaException := .other "java.lang.UnsupportedOperationException"

/-- A set of values, in the order in which it is iterated. -/
abbrev ValueSet := KeyedSet (id : String → String)

/-- Where a set of values is; `emptySet` is the one of `Collections.emptySet`. -/
abbrev SetRef := ℕ

def emptySet : SetRef := 0

abbrev ObjectId := ℕ

/-- `lowerCasedAttributes` has the spelling under which `attributes` has the set. -/
structure LDAPObject (Consumer : Type) where
  attributes : Finmap fun _ : String => SetRef := ∅
  lowerCasedAttributes : Finmap fun _ : String => String × SetRef := ∅
  rangedAttributes : Finmap fun _ : String => ℤ := ∅
  consumerOnMandatoryAttributesComplete : Option Consumer := none
  mandatoryAttributeNames : Option (Finset String) := none
  mandatoryAttributeNamesRemaining : Option (Finset String) := none

/-- The sets built so far, the entries, and the calls `consumer.accept(entry)` made so far. -/
structure World (Consumer : Type) where
  sets : SetRef → ValueSet
  next : SetRef
  objects : ObjectId → LDAPObject Consumer
  accepted : List (ObjectId × Consumer)

variable {Consumer : Type}

abbrev LdapM (Consumer : Type) := Effect (World Consumer) JavaException

def start : World Consumer := ⟨fun _ => KeyedSet.empty id, emptySet + 1, fun _ => {}, []⟩

/-! ## Sets -/

def newSet (values : List String) : LdapM Consumer SetRef := do
  let w ← get
  modify fun w =>
    { w with sets := Function.update w.sets w.next (KeyedSet.ofList id values), next := w.next + 1 }
  return w.next

/-- `Set.addAll`; the set of `Collections.emptySet` refuses the first value it is given. -/
def addAll (ref : SetRef) (values : List String) : LdapM Consumer Unit :=
  if ref = emptySet then
    if values = [] then pure () else throw unsupportedOperation
  else modify fun w =>
    { w with sets := Function.update w.sets ref ((w.sets ref).addAll values) }

/-! ## The entry -/

def getObject (this : ObjectId) : LdapM Consumer (LDAPObject Consumer) := do
  let w ← get
  return w.objects this

def setObject (this : ObjectId) (o : LDAPObject Consumer) : LdapM Consumer Unit :=
  modify fun w => { w with objects := Function.update w.objects this o }

/-- The reference is there: a null one is the exception Java throws on its use. -/
def nonNull {α : Type} : Option α → LdapM Consumer α
  | none => throw .nullPointer
  | some a => pure a

def executeConsumerOnMandatoryAttributesComplete (this : ObjectId) : LdapM Consumer Unit := do
  let o ← getObject this
  let remaining ← nonNull o.mandatoryAttributeNamesRemaining
  if remaining = ∅ then
    setObject this
      { o with
        consumerOnMandatoryAttributesComplete := none
        mandatoryAttributeNames := none
        mandatoryAttributeNamesRemaining := none }
    let consumer ← nonNull o.consumerOnMandatoryAttributesComplete
    modify fun w => { w with accepted := w.accepted ++ [(this, consumer)] }

/-- The set under the lower-cased name is there and has a value. -/
def hasValue (w : World Consumer) (o : LDAPObject Consumer) (name : String) : Bool :=
  match o.lowerCasedAttributes.lookup name with
  | none => false
  | some entry => decide ((w.sets entry.2).elems ≠ [])

/-- One round of the loop over the mandatory names, on the two sets it fills. -/
def initializeMandatory (lower : String → String) (w : World Consumer) (o : LDAPObject Consumer)
    (filled : Finset String × Finset String) (name : String) : Finset String × Finset String :=
  let name := lower name
  (insert name filled.1, if hasValue w o name then filled.2 else insert name filled.2)

def executeOnMandatoryAttributesComplete (lower : String → String) (this : ObjectId)
    (mandatoryAttributeNames : Option (List String)) (consumer : Option Consumer) :
    LdapM Consumer Unit := do
  let w ← get
  let o ← getObject this
  let filled := match mandatoryAttributeNames with
    | none => (∅, ∅)
    | some names => names.foldl (initializeMandatory lower w o) (∅, ∅)
  setObject this
    { o with
      consumerOnMandatoryAttributesComplete := consumer
      mandatoryAttributeNames := some filled.1
      mandatoryAttributeNamesRemaining := some filled.2 }
  executeConsumerOnMandatoryAttributesComplete this

def isWaitingForExecutionOnMandatoryAttributesComplete (o : LDAPObject Consumer) : Bool :=
  o.consumerOnMandatoryAttributesComplete.isSome

/-- The puts of `setAttribute` into both maps; an existing spelling is maintained. -/
def putAttribute (lower : String → String) (this : ObjectId) (attributeName : String)
    (valueSet : SetRef) : LdapM Consumer Unit := do
  let o ← getObject this
  let attributeNameLowerCase := lower attributeName
  match o.lowerCasedAttributes.lookup attributeNameLowerCase with
  | none =>
    setObject this
      { o with
        attributes := o.attributes.insert attributeName valueSet
        lowerCasedAttributes :=
          o.lowerCasedAttributes.insert attributeNameLowerCase (attributeName, valueSet) }
  | some entry =>
    setObject this
      { o with
        attributes := o.attributes.insert entry.1 valueSet
        lowerCasedAttributes :=
          o.lowerCasedAttributes.insert attributeNameLowerCase (entry.1, valueSet) }

/-- What `setAttribute` does about the mandatory attributes after the puts. -/
def updateRemaining (this : ObjectId) (attributeNameLowerCase : String) (valueSet : SetRef) :
    LdapM Consumer Unit := do
  let w ← get
  let o ← getObject this
  if o.consumerOnMandatoryAttributesComplete.isSome then
    if (w.sets valueSet).elems ≠ [] then
      let remaining ← nonNull o.mandatoryAttributeNamesRemaining
      setObject this
        { o with mandatoryAttributeNamesRemaining := some (remaining.erase attributeNameLowerCase) }
    else
      let mandatory ← nonNull o.mandatoryAttributeNames
      if attributeNameLowerCase ∈ mandatory then
        let remaining ← nonNull o.mandatoryAttributeNamesRemaining
        setObject this
          { o with
            mandatoryAttributeNamesRemaining := some (insert attributeNameLowerCase remaining) }
    executeConsumerOnMandatoryAttributesComplete this

def setAttribute (lower : String → String) (this : ObjectId) (attributeName : String)
    (attributeValue : Option SetRef) : LdapM Consumer Unit := do
  let valueSet := attributeValue.getD emptySet
  putAttribute lower this attributeName valueSet
  updateRemaining this (lower attributeName) valueSet

def setSingleAttribute (lower : String → String) (this : ObjectId) (attributeName : String)
    (attributeValue : Option String) : LdapM Consumer Unit := do
  let asSet ← newSet attributeValue.toList
  setAttribute lower this attributeName (some asSet)

def getAttributeAsString (lower : String → String) (w : World Consumer)
    (o : LDAPObject Consumer) (name : String) : Option String :=
  match o.lowerCasedAttributes.lookup (lower name) with
  | none => none
  | some entry => (w.sets entry.2).elems.head?

def getAttributeAsSet (lower : String → String) (w : World Consumer)
    (o : LDAPObject Consumer) (name : String) : Option ValueSet :=
  (o.lowerCasedAttributes.lookup (lower name)).map fun entry => w.sets entry.2

/-! ## Ranges -/

def isRangeComplete (o : LDAPObject Consumer) (name : String) : Bool :=
  decide (name ∉ o.rangedAttributes)

def isRangeCompleteForAllAttributes (o : LDAPObject Consumer) : Bool :=
  decide (o.rangedAttributes = ∅)

def addRangedAttribute (this : ObjectId) (name : String) (max : ℤ) : LdapM Consumer Unit := do
  let o ← getObject this
  match o.rangedAttributes.lookup name with
  | none => setObject this { o with rangedAttributes := o.rangedAttributes.insert name max }
  | some current =>
    if current < max then
      setObject this { o with rangedAttributes := o.rangedAttributes.insert name max }

def populateRangedAttribute (this obj : ObjectId) (name : String) : LdapM Consumer Unit := do
  let w ← get
  let o ← getObject obj
  match o.attributes.lookup name with
  | none => pure ()
  | some newValues =>
    let mine ← getObject this
    match mine.attributes.lookup name with
    | none => pure ()
    | some values =>
      addAll values (w.sets newValues).elems
      match o.rangedAttributes.lookup name with
      | some currentRange => addRangedAttribute this name currentRange
      | none =>
        setObject this { mine with rangedAttributes := mine.rangedAttributes.erase name }

/-! ## Any number of entries and callers -/

/-- What callers do, in any order: calls to entries, sets they build, and changes to sets they
hold. What a consumer does when it is called comes after the call that called it. -/
inductive Call (Consumer : Type) where
  | newSet (values : List String)
  | changeSet (ref : SetRef) (values : ValueSet)
  | setSingleAttribute (this : ObjectId) (attributeName : String) (attributeValue : Option String)
  | setAttribute (this : ObjectId) (attributeName : String) (attributeValue : Option SetRef)
  | executeOnMandatoryAttributesComplete (this : ObjectId)
      (mandatoryAttributeNames : Option (List String)) (consumer : Option Consumer)
  | addRangedAttribute (this : ObjectId) (name : String) (max : ℤ)
  | populateRangedAttribute (this obj : ObjectId) (name : String)

def body (lower : String → String) : Call Consumer → LdapM Consumer Unit
  | .newSet values => do
    let _ ← newSet values
  | .changeSet ref values => modify fun w => { w with sets := Function.update w.sets ref values }
  | .setSingleAttribute this name value => setSingleAttribute lower this name value
  | .setAttribute this name value => setAttribute lower this name value
  | .executeOnMandatoryAttributesComplete this names consumer =>
    executeOnMandatoryAttributesComplete lower this names consumer
  | .addRangedAttribute this name max => addRangedAttribute this name max
  | .populateRangedAttribute this obj name => populateRangedAttribute this obj name

/-- The references callers hand over are to sets built before; `Collections.emptySet` cannot be
changed. -/
def Held (w : World Consumer) : Call Consumer → Prop
  | .changeSet ref _ => ref < w.next ∧ ref ≠ emptySet
  | .setAttribute _ _ (some ref) => ref < w.next
  | _ => True

/-- A call that throws leaves what it changed before. -/
def directory (lower : String → String) : Machine (World Consumer) (Call Consumer) where
  Enabled := Held
  next w call := (exec (body lower call) w).2

end LdapObject
