import ClassCompiler.Json.Depth
import ClassCompiler.Json.Record
import ClassCompiler.Json.Storable
import ClassCompiler.Proofs.Registry
import Mathlib.Data.List.Forall2

/-! All ways to write a record. A field that has the value it gets when it is absent may be left
out of an object, and of an array behind the last that is given. -/

namespace ClassCompiler.Json

/-- How one field of a record may be written, which depends on the value that it has. -/
structure FieldForm where
  name : String
  omissible : Prop
  form : Json → Prop

def TextForm (value : String) (json : Json) : Prop := json = string value

def ListForm (forms : List (Json → Prop)) (json : Json) : Prop :=
  ∃ items, json = array items ∧ List.Forall₂ (fun form item => form item) forms items

theorem ListForm.empty : ListForm [] (array []) := ⟨[], rfl, .nil⟩

theorem ListForm.singleton {form : Json → Prop} {item : Json} (written : form item) :
    ListForm [form] (array [item]) :=
  ⟨[item], rfl, .cons written .nil⟩

namespace FieldForm

def text (name : String) (value : String) : FieldForm := ⟨name, False, TextForm value⟩

def flag (name : String) (value : Bool) : FieldForm := ⟨name, value = false, (· = bool value)⟩

def optional (name : String) (form : Option (Json → Prop)) : FieldForm :=
  ⟨name, form = none, form.getD (· = null)⟩

def list (name : String) (forms : List (Json → Prop)) : FieldForm :=
  ⟨name, forms = [], ListForm forms⟩

end FieldForm

inductive Given : List FieldForm → List (String × Json) → Prop
  | nil : Given [] []
  | given {field : FieldForm} {json : Json} (written : field.form json)
      {fields : List FieldForm} {members : List (String × Json)} (rest : Given fields members) :
      Given (field :: fields) ((field.name, json) :: members)
  | omitted {field : FieldForm} (omissible : field.omissible)
      {fields : List FieldForm} {members : List (String × Json)} (rest : Given fields members) :
      Given (field :: fields) members

inductive Listed : List FieldForm → List Json → Prop
  | omitted {fields : List FieldForm} (omissible : ∀ field ∈ fields, field.omissible) :
      Listed fields []
  | given {field : FieldForm} {json : Json} (written : field.form json)
      {fields : List FieldForm} {items : List Json} (rest : Listed fields items) :
      Listed (field :: fields) (json :: items)

/-- An object with the members for the fields, and others that no field has the name of, in any
order. -/
def ObjectForm (extra : Json → Prop) (fields : List FieldForm) (json : Json) : Prop :=
  ∃ members given unknown, json = object members ∧ members.Perm (given ++ unknown) ∧
    Given fields given ∧ ∀ member ∈ unknown, member.1 ∉ fields.map (·.name) ∧ extra member.2

def ArrayForm (fields : List FieldForm) (json : Json) : Prop :=
  ∃ items, json = array items ∧ Listed fields items

def RecordForm (fields : List FieldForm) (json : Json) : Prop :=
  ObjectForm (fun _ => True) fields json ∨ ArrayForm fields json

/-! ### The fields of a form -/

namespace FieldForm

/-- What a record has for the field reads as the value of the field, and is no deeper than this. -/
def Accepts (field : FieldForm) (depth : Nat) : Option Json → Prop
  | none => field.omissible
  | some json => field.form json ∧ json.depth ≤ depth

end FieldForm

namespace Given

variable {fields : List FieldForm} {members : List (String × Json)}

theorem forall_mem {P : Json → Prop} (given : Given fields members)
    (holds : ∀ field ∈ fields, ∀ json, field.form json → P json) :
    ∀ member ∈ members, P member.2 := by
  induction given with
  | nil => simp
  | given written _ ih =>
    obtain ⟨first, holds⟩ := List.forall_mem_cons.mp holds
    exact List.forall_mem_cons.mpr ⟨first _ written, ih holds⟩
  | omitted _ _ ih => exact ih (List.forall_mem_cons.mp holds).2

theorem keys_sublist (given : Given fields members) :
    (members.map (·.1)).Sublist (fields.map (·.name)) := by
  induction given with
  | nil => exact .slnil
  | given _ _ ih => exact .cons_cons _ ih
  | omitted _ _ ih => exact .cons _ ih

theorem accepts {depth : Nat} (given : Given fields members)
    (distinct : (fields.map (·.name)).Nodup)
    (shallow : ∀ member ∈ members, member.2.depth ≤ depth) :
    ∀ field ∈ fields, field.Accepts depth (members.lookup field.name) := by
  induction given with
  | nil => simp
  | @given first json written fields members rest ih =>
    obtain ⟨apart, distinct⟩ := List.nodup_cons.mp distinct
    obtain ⟨shallowFirst, shallow⟩ := List.forall_mem_cons.mp shallow
    refine List.forall_mem_cons.mpr ⟨?_, fun field member => ?_⟩
    · rw [List.lookup_cons_self]
      exact ⟨written, shallowFirst⟩
    · have differ : (field.name == first.name) = false :=
        beq_eq_false_iff_ne.mpr fun same => apart (List.mem_map.mpr ⟨field, member, same⟩)
      rw [List.lookup_cons, differ]
      exact ih distinct shallow field member
  | @omitted first omissible fields members rest ih =>
    obtain ⟨apart, distinct⟩ := List.nodup_cons.mp distinct
    refine List.forall_mem_cons.mpr ⟨?_, ih distinct shallow⟩
    have absent : members.lookup first.name = none := by
      rw [List.lookup_eq_none_iff]
      intro member inside
      have known := rest.keys_sublist.subset (List.mem_map_of_mem inside)
      exact bne_iff_ne.mpr fun same => apart (show first.name ∈ _ from same ▸ known)
    rw [absent]
    exact omissible

/-- Members in any order, with unknown ones among them, still give the fields. -/
theorem exists_known {all unknown : List (String × Json)} (given : Given fields members)
    (distinct : (fields.map (·.name)).Nodup) (order : all.Perm (members ++ unknown))
    (apart : ∀ member ∈ unknown, member.1 ∉ fields.map (·.name)) :
    ∃ known, (object all).fields? (fields.map (·.name)) = some known ∧
      ∀ name, known.lookup name = members.lookup name := by
  have keys := given.keys_sublist
  -- The order is lost, but no key is repeated, so each look-up has the same answer.
  have perm : (all.filter ((fields.map (·.name)).contains ·.1)).Perm members := by
    have known : members.filter ((fields.map (·.name)).contains ·.1) = members :=
      List.filter_eq_self.mpr fun member inside =>
        List.contains_iff_mem.mpr (keys.subset (List.mem_map_of_mem inside))
    have others : unknown.filter ((fields.map (·.name)).contains ·.1) = [] :=
      List.filter_eq_nil_iff.mpr fun member inside same =>
        apart member inside (List.contains_iff_mem.mp same)
    have filtered := order.filter ((fields.map (·.name)).contains ·.1)
    rwa [List.filter_append, known, others, List.append_nil] at filtered
  have once := keys.nodup distinct
  have onceFiltered := (perm.map (·.1)).nodup_iff.mpr once
  refine ⟨_, if_pos onceFiltered, fun name => Option.ext fun value => ?_⟩
  rw [lookup_eq_some_iff_mem onceFiltered, lookup_eq_some_iff_mem once, perm.mem_iff]

end Given

namespace Listed

variable {fields : List FieldForm} {items : List Json}

theorem length_le (listed : Listed fields items) : items.length ≤ fields.length := by
  induction listed with
  | omitted => exact Nat.zero_le _
  | given _ _ ih => exact Nat.succ_le_succ ih

theorem zip (listed : Listed fields items) :
    Given fields ((fields.map (·.name)).zip items) := by
  induction listed with
  | @omitted fields omissible =>
    rw [List.zip_nil_right]
    induction fields with
    | nil => exact .nil
    | cons field fields ih =>
      obtain ⟨first, rest⟩ := List.forall_mem_cons.mp omissible
      exact .omitted first (ih rest)
  | given written _ ih => exact .given written ih

end Listed

theorem ArrayForm.exists_fields? {fields : List FieldForm} {json : Json} {depth : Nat}
    {names : List String} (form : ArrayForm fields json) (named : fields.map (·.name) = names)
    (distinct : names.Nodup) (enough : json.depth ≤ depth + 1) :
    ∃ found, json.fields? names = some found ∧
      ∀ field ∈ fields, field.Accepts depth (found.lookup field.name) := by
  subst named
  obtain ⟨items, rfl, listed⟩ := form
  refine ⟨_, if_pos ?_, listed.zip.accepts distinct fun member inside => ?_⟩
  · simpa using listed.length_le
  · have := depth_lt_of_mem_array (List.of_mem_zip inside).2
    omega

theorem ObjectForm.exists_fields? {extra : Json → Prop} {fields : List FieldForm} {json : Json}
    {depth : Nat} {names : List String} (form : ObjectForm extra fields json)
    (named : fields.map (·.name) = names) (distinct : names.Nodup)
    (enough : json.depth ≤ depth + 1) :
    ∃ found, json.fields? names = some found ∧
      ∀ field ∈ fields, field.Accepts depth (found.lookup field.name) := by
  subst named
  obtain ⟨members, given, unknown, rfl, order, gives, apart⟩ := form
  obtain ⟨known, found, same⟩ :=
    gives.exists_known distinct order fun member inside => (apart member inside).1
  refine ⟨known, found, fun field member => ?_⟩
  rw [same]
  refine gives.accepts distinct (fun member inside => ?_) field member
  have := depth_lt_of_mem_object (order.mem_iff.mpr (List.mem_append_left _ inside))
  omega

theorem RecordForm.exists_fields? {fields : List FieldForm} {json : Json} {depth : Nat}
    {names : List String} (form : RecordForm fields json) (named : fields.map (·.name) = names)
    (distinct : names.Nodup) (enough : json.depth ≤ depth + 1) :
    ∃ found, json.fields? names = some found ∧
      ∀ field ∈ fields, field.Accepts depth (found.lookup field.name) := by
  rcases form with object | array
  · exact object.exists_fields? named distinct enough
  · exact array.exists_fields? named distinct enough

theorem RecordForm.depth_pos {fields : List FieldForm} {json : Json}
    (form : RecordForm fields json) : 0 < json.depth := by
  rcases form with ⟨_, _, _, rfl, -⟩ | ⟨_, rfl, -⟩
  · rw [depth]
    omega
  · rw [depth]
    omega

/-! ### Reading fields -/

def Reads {α : Type} (read : Json → Option α) (depth : Nat) (form : Json → Prop) (value : α) :
    Prop :=
  ∀ json, json.depth ≤ depth → form json → read json = some value

theorem reads_text (depth : Nat) (value : String) : Reads text? depth (TextForm value) value := by
  rintro _ - rfl
  rfl

section

variable {α : Type} {name : String} {found : List (String × Json)} {depth : Nat}
  {read : Json → Option α} {form : α → Json → Prop}

theorem required?_text {value : String}
    (accepted : (FieldForm.text name value).Accepts depth (found.lookup name)) :
    required? text? name found = some value := by
  unfold required?
  cases given : found.lookup name with
  | none =>
    rw [given] at accepted
    exact accepted.elim
  | some json =>
    rw [given] at accepted
    exact reads_text depth value json accepted.2 accepted.1

theorem default?_flag {value : Bool}
    (accepted : (FieldForm.flag name value).Accepts depth (found.lookup name)) :
    default? false bool? name found = some value := by
  unfold default?
  split
  next absent =>
    rw [absent] at accepted
    exact congrArg some (show value = false from accepted).symm
  next json present =>
    rw [present] at accepted
    rw [accepted.1]
    rfl

theorem default?_optional {value : Option α} (strict : read null = none)
    (reads : ∀ v ∈ value, Reads read depth (form v) v)
    (accepted : (FieldForm.optional name (value.map form)).Accepts depth (found.lookup name)) :
    default? none (optional? read) name found = some value := by
  unfold default?
  cases value with
  | none =>
    split
    next => rfl
    next json present =>
      rw [present] at accepted
      rw [show json = null from accepted.1]
      rfl
  | some value =>
    split
    next absent =>
      rw [absent] at accepted
      cases accepted
    next json present =>
      rw [present] at accepted
      have known := reads value rfl json accepted.2 accepted.1
      unfold optional?
      split
      next =>
        rw [strict] at known
        cases known
      next => rw [known]; rfl

theorem list?_of_forms {values : List α} {json : Json}
    (reads : ∀ v ∈ values, Reads read depth (form v) v) (shallow : json.depth ≤ depth)
    (written : ListForm (values.map form) json) :
    list? read json = some values := by
  obtain ⟨items, rfl, all⟩ := written
  rw [List.forall₂_map_left_iff] at all
  rw [list?]
  have known : ∀ item ∈ items, item.depth ≤ depth := fun item inside => by
    have := depth_lt_of_mem_array inside
    omega
  clear shallow
  induction all with
  | nil => rfl
  | cons written _ ih =>
    obtain ⟨readsFirst, reads⟩ := List.forall_mem_cons.mp reads
    obtain ⟨first, known⟩ := List.forall_mem_cons.mp known
    rw [List.mapM_cons, readsFirst _ first written, ih reads known]
    rfl

theorem default?_list {values : List α} (reads : ∀ v ∈ values, Reads read depth (form v) v)
    (accepted : (FieldForm.list name (values.map form)).Accepts depth (found.lookup name)) :
    default? [] (list? read) name found = some values := by
  unfold default?
  split
  next absent =>
    rw [absent] at accepted
    rw [List.map_eq_nil_iff.mp accepted]
  next json present =>
    rw [present] at accepted
    exact list?_of_forms reads accepted.2 accepted.1

end

/-! ### Storable records -/

def Storable (form : Json → Prop) : Prop := ∀ json, form json → json.isStorable

theorem FieldForm.storable_text (name value : String) :
    Storable (FieldForm.text name value).form := by
  rintro _ rfl
  rfl

theorem FieldForm.storable_list (name : String) {forms : List (Json → Prop)}
    (storable : ∀ form ∈ forms, Storable form) : Storable (FieldForm.list name forms).form := by
  rintro _ ⟨items, rfl, all⟩
  rw [isStorable, areStorable_eq_all, List.all_eq_true]
  intro item inside
  induction all with
  | nil => cases inside
  | cons written _ ih =>
    obtain ⟨first, rest⟩ := List.forall_mem_cons.mp storable
    rcases List.mem_cons.mp inside with rfl | later
    · exact first _ written
    · exact ih rest later

theorem ObjectForm.storable {extra : Json → Prop} {fields : List FieldForm}
    (storable : ∀ field ∈ fields, Storable field.form) (storableExtra : Storable extra) :
    Storable (ObjectForm extra fields) := by
  rintro _ ⟨members, given, unknown, rfl, order, gives, apart⟩
  rw [isStorable, membersStorable_eq_all, List.all_eq_true]
  intro member inside
  rcases List.mem_append.mp (order.mem_iff.mp inside) with known | other
  · exact gives.forall_mem storable member known
  · exact storableExtra _ (apart member other).2

/-! ### Written records -/

theorem optionalMember_map {α : Type} (name : String) (write : α → Json) (value : Option α) :
    optionalMember name id (value.map write) = optionalMember name write value := by
  cases value <;> rfl

theorem listMember_map {α : Type} (name : String) (write : α → Json) (values : List α) :
    listMember name id (values.map write) = listMember name write values := by
  cases values with
  | nil => rfl
  | cons value values => simp [listMember]

namespace Given

theorem append {fields others : List FieldForm} {members more : List (String × Json)}
    (first : Given fields members) (second : Given others more) :
    Given (fields ++ others) (members ++ more) := by
  induction first with
  | nil => exact second
  | given written _ ih => exact .given written ih
  | omitted omissible _ ih => exact .omitted omissible ih

theorem single (field : FieldForm) {json : Json} (written : field.form json) :
    Given [field] [(field.name, json)] :=
  .given written .nil

theorem text (name value : String) : Given [.text name value] [(name, string value)] :=
  single (.text name value) rfl

theorem flag (name : String) (value : Bool) : Given [.flag name value] [(name, bool value)] :=
  single (.flag name value) rfl

variable {α : Type} {write : α → Json} {form : α → Json → Prop}

theorem optional (name : String) {value : Option α} (writes : ∀ v ∈ value, form v (write v)) :
    Given [.optional name (value.map form)] (optionalMember name write value) := by
  cases value with
  | none => exact .omitted rfl .nil
  | some value => exact single (.optional name (some (form value))) (writes value rfl)

theorem list (name : String) {values : List α} (writes : ∀ v ∈ values, form v (write v)) :
    Given [.list name (values.map form)] (listMember name write values) := by
  cases values with
  | nil => exact .omitted rfl .nil
  | cons value values =>
    refine single (.list name ((value :: values).map form)) ⟨_, rfl, ?_⟩
    rw [List.forall₂_map_left_iff, List.forall₂_map_right_iff, List.forall₂_same]
    exact writes

theorem optionalText (name : String) (value : Option String) :
    Given [.optional name (value.map TextForm)] (optionalMember name .string value) :=
  .optional name fun _ _ => rfl

theorem texts (name : String) (values : List String) :
    Given [.list name (values.map TextForm)] (listMember name .string values) :=
  .list name fun _ _ => rfl

end Given

theorem Given.objectForm {fields : List FieldForm} {members : List (String × Json)}
    (given : Given fields members) (extra : Json → Prop) :
    ObjectForm extra fields (object members) :=
  ⟨members, members, [], rfl, by rw [List.append_nil], given, by simp⟩

end ClassCompiler.Json
