import ForeignData.Plan.Encoding
import ForeignData.Proofs.Json.Reader

/-!
# Plans kept as text

Whatever a plan holds, the text of it is read as the same plan. So is the text without the member
that says whether the key of the rows is fetched, for a plan that does not fetch it.
-/

namespace ForeignData

/-! ### Parts -/

/-- Attribute numbers as an array of numbers. -/
def attrsJson (attrs : List AttrNumber) : Json :=
  .array (attrs.map fun n => .integer n.toInt)

lemma writesJson_attrs (attrs : List AttrNumber) :
    WritesJson (attrsText attrs) (attrsJson attrs) := by
  have hitems : ∀ p ∈ attrs.map fun n => (intText n.toInt, Json.integer n.toInt),
      WritesJson p.1 p.2 := by
    intro p hp
    obtain ⟨n, -, rfl⟩ := List.mem_map.1 hp
    have hlow := n.minValue_le_toInt
    have hhigh := n.toInt_le
    refine writesJson_integer ?_
    have hsize : UInt64.size = 18446744073709551616 := rfl
    have hmin : Int16.minValue.toInt = -32768 := rfl
    have hmax : Int16.maxValue.toInt = 32767 := rfl
    simp only [hsize]
    omega
  have harray := writesJson_array hitems
  simp only [List.map_map] at harray
  exact harray

lemma attrs?_attrsJson (attrs : List AttrNumber) : (attrsJson attrs).attrs? = some attrs := by
  induction attrs with
  | nil => rfl
  | cons n attrs ih =>
    have hrest : (attrs.map fun n => Json.integer n.toInt).mapM Json.attr? = some attrs := ih
    change (Json.integer n.toInt :: attrs.map fun n => Json.integer n.toInt).mapM Json.attr? = _
    rw [List.mapM_cons, hrest]
    simp [Json.attr?]

lemma writesJson_count (n : UInt64) : WritesJson (natText n.toNat) (.integer n.toNat) := by
  have htext : intText (n.toNat : Int) = natText n.toNat := by
    rw [intText, if_neg (by omega), Int.natAbs_natCast]
  rw [← htext]
  exact writesJson_integer n.toNat_lt

lemma count?_integer (n : UInt64) : (Json.integer n.toNat).count? = some n := by
  have hlt := n.toNat_lt
  rw [Json.count?, if_pos]
  · simp
  · constructor
    · omega
    · exact_mod_cast hlt

def readMembers (members : List (String × List Char × Json)) : List (List Char × Json) :=
  members.map fun m => (m.1.toList, m.2.2)

lemma namedMembers?_eq (members : List (String × List Char × Json)) :
    namedMembers? (members.map fun m => (some m.1.toList, m.2.2)) = some (readMembers members) := by
  induction members with
  | nil => rfl
  | cons m members ih =>
    rw [namedMembers?] at ih ⊢
    rw [List.map_cons, List.mapM_cons, ih]
    rfl

/-- Among members with names of their own there is one value of a name at most. -/
lemma onlyMember?_readMembers {members : List (String × List Char × Json)}
    (h : (members.map Prod.fst).Nodup) (name : String) :
    onlyMember? (readMembers members) name = some ((members.lookup name).map Prod.snd) := by
  have hname : ∀ m : String × List Char × Json, m.1.toList = name.toList ↔ m.1 = name :=
    fun m => String.toList_inj
  have hnone : ∀ {ms : List (String × List Char × Json)}, name ∉ ms.map Prod.fst →
      (readMembers ms).filter (fun m => m.1 = name.toList) = [] := by
    intro ms hms
    rw [readMembers, List.filter_eq_nil_iff]
    intro m hm
    obtain ⟨m, hmem, rfl⟩ := List.mem_map.1 hm
    simp only [decide_eq_true_eq, hname]
    rintro rfl
    exact hms (List.mem_map_of_mem hmem)
  induction members with
  | nil => rfl
  | cons m members ih =>
    rw [List.map_cons, List.nodup_cons] at h
    have hfilter : (readMembers (m :: members)).filter (fun m => m.1 = name.toList)
        = if m.1 = name then
            (m.1.toList, m.2.2) :: (readMembers members).filter (fun m => m.1 = name.toList)
          else (readMembers members).filter (fun m => m.1 = name.toList) := by
      simp [readMembers, List.filter_cons, hname]
    rw [onlyMember?, hfilter]
    by_cases heq : m.1 = name
    · subst heq
      rw [if_pos rfl, hnone h.1, List.lookup_cons, beq_self_eq_true]
      rfl
    · rw [if_neg heq, ← onlyMember?, ih h.2, List.lookup_cons, beq_false_of_ne (Ne.symm heq)]

lemma requiredMember?_readMembers {members : List (String × List Char × Json)}
    (h : (members.map Prod.fst).Nodup) (name : String) :
    requiredMember? (readMembers members) name = (members.lookup name).map Prod.snd := by
  rw [requiredMember?, onlyMember?_readMembers h]
  rfl

/-- Structured data as it is read from written members. -/
lemma readJson?_members {members : List (String × List Char × Json)}
    (h : ∀ m ∈ members, WritesJson m.2.1 m.2.2) :
    readJson? (String.ofList (jsonObjectText (members.map fun m => (m.1, m.2.1)))).toList
      = some (.object (members.map fun m => (some m.1.toList, m.2.2))) := by
  rw [String.toList_ofList]
  exact (writesJson_object h).readJson?

/-! ### Scan plans -/

namespace ScanPlan

variable (plan : ScanPlan)

/-- The members of the text of a plan, with the values that they write. -/
def members : List (String × List Char × Json) :=
  [("query", jsonStringText plan.query.toList, .string plan.query.toList),
   ("retrieved_attrs", attrsText plan.retrieved, attrsJson plan.retrieved),
   ("param_count", natText plan.paramCount.toNat, .integer plan.paramCount.toNat),
   ("fetch_rowid", jsonBoolText plan.fetchRowid, .bool plan.fetchRowid)]

lemma writesJson_of_mem_members : ∀ m ∈ plan.members, WritesJson m.2.1 m.2.2 := by
  intro m hm
  simp only [members, List.mem_cons, List.not_mem_nil, or_false] at hm
  rcases hm with rfl | rfl | rfl | rfl
  · exact writesJson_string _
  · exact writesJson_attrs _
  · exact writesJson_count _
  · exact writesJson_bool _

lemma encode_eq :
    plan.encode = String.ofList (jsonObjectText (plan.members.map fun m => (m.1, m.2.1))) :=
  rfl

/-- The members of a plan without the one that says whether the key of the rows is fetched. -/
def olderMembers : List (String × List Char × Json) :=
  plan.members.filter fun m => m.1 ≠ "fetch_rowid"

/-- The text of a plan as it was before plans said whether the key of the rows is fetched. -/
def encodeOlder : String :=
  String.ofList (jsonObjectText (plan.olderMembers.map fun m => (m.1, m.2.1)))

lemma ofParts?_members (fetchRowid : Option Json) :
    ofParts? (.string plan.query.toList) (attrsJson plan.retrieved)
        (.integer plan.paramCount.toNat) fetchRowid
      = (match fetchRowid with
        | none => some false
        | some v => v.bool?).map fun b => { plan with fetchRowid := b } := by
  rw [ofParts?, attrs?_attrsJson, count?_integer]
  simp only [Json.string?, String.ofList_toList]
  cases fetchRowid with
  | none => rfl
  | some v =>
    change (Json.bool? v >>= _) = (Json.bool? v).map _
    cases v.bool? <;> rfl

/-- Of an object the four members with the names of the parts are read. -/
lemma ofJson?_object {ms : List (String × List Char × Json)} (h : (ms.map Prod.fst).Nodup) :
    ofJson? (.object (ms.map fun m => (some m.1.toList, m.2.2)))
      = (do
        let query ← ms.lookup "query"
        let attrs ← ms.lookup "retrieved_attrs"
        let count ← ms.lookup "param_count"
        ofParts? query.2 attrs.2 count.2 ((ms.lookup "fetch_rowid").map Prod.snd)) := by
  rw [ofJson?, namedMembers?_eq]
  simp only [Option.bind_eq_bind, Option.bind_some, requiredMember?_readMembers h,
    onlyMember?_readMembers h, Option.bind_map]
  rfl

lemma nodup_members : (plan.members.map Prod.fst).Nodup := by
  simp [members]

lemma ofJson?_members :
    ofJson? (.object (plan.members.map fun m => (some m.1.toList, m.2.2))) = some plan := by
  have hquery : plan.members.lookup "query"
      = some (jsonStringText plan.query.toList, .string plan.query.toList) := by
    simp [members]
  have hattrs : plan.members.lookup "retrieved_attrs"
      = some (attrsText plan.retrieved, attrsJson plan.retrieved) := by
    simp [members, List.lookup_cons]
  have hcount : plan.members.lookup "param_count"
      = some (natText plan.paramCount.toNat, .integer plan.paramCount.toNat) := by
    simp [members, List.lookup_cons]
  have hrowid : plan.members.lookup "fetch_rowid"
      = some (jsonBoolText plan.fetchRowid, .bool plan.fetchRowid) := by
    simp [members, List.lookup_cons]
  rw [ofJson?_object plan.nodup_members, hquery, hattrs, hcount, hrowid]
  exact plan.ofParts?_members (some (.bool plan.fetchRowid))

lemma ofJson?_olderMembers :
    ofJson? (.object (plan.olderMembers.map fun m => (some m.1.toList, m.2.2)))
      = some { plan with fetchRowid := false } := by
  have hnames : (plan.olderMembers.map Prod.fst).Nodup := by
    refine plan.nodup_members.sublist ?_
    exact List.filter_sublist.map Prod.fst
  have hquery : plan.olderMembers.lookup "query"
      = some (jsonStringText plan.query.toList, .string plan.query.toList) := by
    simp [olderMembers, members]
  have hattrs : plan.olderMembers.lookup "retrieved_attrs"
      = some (attrsText plan.retrieved, attrsJson plan.retrieved) := by
    simp [olderMembers, members, List.lookup_cons]
  have hcount : plan.olderMembers.lookup "param_count"
      = some (natText plan.paramCount.toNat, .integer plan.paramCount.toNat) := by
    simp [olderMembers, members, List.lookup_cons]
  have hrowid : plan.olderMembers.lookup "fetch_rowid" = none := by
    simp [olderMembers, members, List.lookup_cons]
  rw [ofJson?_object hnames, hquery, hattrs, hcount, hrowid]
  exact plan.ofParts?_members none

lemma decode_encode : decode plan.encode = .ok plan := by
  have hread := readJson?_members plan.writesJson_of_mem_members
  rw [← encode_eq] at hread
  rw [decode, hread, Option.bind_eq_bind, Option.bind_some, ofJson?_members]

lemma decode_encodeOlder : decode plan.encodeOlder = .ok { plan with fetchRowid := false } := by
  have hmembers : ∀ m ∈ plan.olderMembers, WritesJson m.2.1 m.2.2 := by
    intro m hm
    exact plan.writesJson_of_mem_members m (List.mem_filter.1 hm |>.1)
  have hread := readJson?_members hmembers
  rw [← encodeOlder] at hread
  rw [decode, hread, Option.bind_eq_bind, Option.bind_some, ofJson?_olderMembers]

end ScanPlan

/-! ### Change plans -/

namespace Mutation

def members (m : Mutation) : List (String × List Char × Json) :=
  let kind := ("kind", jsonStringText m.kind.toList, Json.string m.kind.toList)
  match m with
  | insert attrs | update attrs => [kind, ("target_attrs", attrsText attrs, attrsJson attrs)]
  | delete => [kind]

def json (m : Mutation) : Json :=
  .object (m.members.map fun p => (some p.1.toList, p.2.2))

lemma writesJson_encode (m : Mutation) : WritesJson m.encode m.json := by
  have hencode : m.encode = jsonObjectText (m.members.map fun p => (p.1, p.2.1)) := by
    cases m <;> rfl
  have hmembers : ∀ p ∈ m.members, WritesJson p.2.1 p.2.2 := by
    intro p hp
    cases m with
    | insert attrs | update attrs =>
      simp only [members, List.mem_cons, List.not_mem_nil, or_false] at hp
      rcases hp with rfl | rfl
      · exact writesJson_string _
      · exact writesJson_attrs _
    | delete =>
      simp only [members, List.mem_cons, List.not_mem_nil, or_false] at hp
      subst hp
      exact writesJson_string _
  rw [hencode]
  exact writesJson_object hmembers

lemma canBeKept_attrsJson (depth : Nat) (attrs : List AttrNumber) :
    (attrsJson attrs).canBeKept (depth + 1) = true := by
  have hall : Json.allCanBeKept depth (attrs.map fun n => Json.integer n.toInt) = true := by
    induction attrs with
    | nil => rw [List.map_nil, Json.allCanBeKept]
    | cons n attrs ih =>
      rw [List.map_cons, Json.allCanBeKept, ih]
      simp [Json.canBeKept]
  rw [attrsJson, Json.canBeKept, Nat.add_sub_cancel, hall]
  simp

lemma canBeKept_json (m : Mutation) : m.json.canBeKept mutationDepth = true := by
  have hattrs := canBeKept_attrsJson 124
  cases m <;> simp [json, members, mutationDepth, Json.canBeKept, Json.membersCanBeKept, hattrs]

lemma ofJson?_json (m : Mutation) : ofJson? m.json = some m := by
  have hnames : (m.members.map Prod.fst).Nodup := by cases m <;> simp [members]
  have hkept := m.canBeKept_json
  rw [json] at hkept ⊢
  rw [ofJson?, if_pos hkept]
  simp only [namedMembers?_eq, Option.bind_eq_bind, Option.bind_some,
    requiredMember?_readMembers hnames, onlyMember?_readMembers hnames]
  cases m <;>
    simp [members, kind, List.lookup_cons, Json.string?, ofKind?, attrs?_attrsJson]

end Mutation

namespace ChangePlan

def members (plan : ChangePlan) : List (String × List Char × Json) :=
  [("mutation", plan.mutation.encode, plan.mutation.json),
   ("query", jsonStringText plan.query.toList, .string plan.query.toList)]

lemma writesJson_of_mem_members (plan : ChangePlan) :
    ∀ m ∈ plan.members, WritesJson m.2.1 m.2.2 := by
  intro m hm
  simp only [members, List.mem_cons, List.not_mem_nil, or_false] at hm
  rcases hm with rfl | rfl
  · exact plan.mutation.writesJson_encode
  · exact writesJson_string _

lemma ofJson?_members (plan : ChangePlan) :
    ofJson? (.object (plan.members.map fun m => (some m.1.toList, m.2.2))) = some plan := by
  have hnames : (plan.members.map Prod.fst).Nodup := by simp [members]
  rw [ofJson?, namedMembers?_eq]
  simp only [Option.bind_eq_bind, Option.bind_some, requiredMember?_readMembers hnames]
  change Option.bind (Mutation.ofJson? plan.mutation.json) _ = _
  rw [Mutation.ofJson?_json]
  simp [Json.string?]

lemma decode_encode (plan : ChangePlan) : decode plan.encode = .ok plan := by
  have hencode : plan.encode
      = String.ofList (jsonObjectText (plan.members.map fun m => (m.1, m.2.1))) := rfl
  rw [decode, hencode, readJson?_members plan.writesJson_of_mem_members, Option.bind_eq_bind,
    Option.bind_some, ofJson?_members]

end ChangePlan

/-- Plans survive being kept as text: whatever they hold, they are read as they were written. A scan
plan that does not fetch the key of the rows is also read from the text that says nothing of it. -/
theorem decode_encode_plan :
    (∀ plan : ScanPlan, ScanPlan.decode plan.encode = .ok plan)
      ∧ (∀ plan : ChangePlan, ChangePlan.decode plan.encode = .ok plan)
      ∧ ∀ query retrieved paramCount,
        ScanPlan.decode (ScanPlan.mk query retrieved paramCount false).encodeOlder
          = .ok (ScanPlan.mk query retrieved paramCount false) :=
  ⟨ScanPlan.decode_encode, ChangePlan.decode_encode,
    fun _ _ _ => ScanPlan.decode_encodeOlder _⟩

end ForeignData
