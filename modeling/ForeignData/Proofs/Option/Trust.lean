import Mathlib.Data.List.Basic
import ForeignData.Option.Source
import ForeignData.Proofs.Shipping.Caches

/-!
# Extensions that a server trusts

The option of a server that lists extensions decides which objects are shipped. What counts of its
text is which names stand between the commas: neither their order nor how often one is repeated, nor
blanks and empty items. The list of identifiers keeps each extension at its first place, and whether
an object is shipped depends on nothing but which identifiers are in it.
-/

namespace ForeignData

/-! ### Items of a list -/

lemma splitAtMark_eq_splitOn (mark : Char) (s : List Char) :
    splitAtMark mark s = s.splitOn mark := by
  induction s with
  | nil => rw [splitAtMark_nil, List.splitOn_nil]
  | cons c s ih =>
    rw [splitAtMark, List.splitOn_cons_eq_if_modifyHead, ← ih]
    split
    · next h => exact absurd h (splitAtMark_ne_nil mark s)
    · next part parts h => simp [h]

lemma notMem_of_mem_splitAtMark {mark : Char} {s part : List Char} (h : part ∈ splitAtMark mark s) :
    mark ∉ part := by
  induction s generalizing part with
  | nil =>
    rw [splitAtMark_nil, List.mem_singleton] at h
    simp [h]
  | cons c s ih =>
    rw [splitAtMark] at h
    split at h
    · next hnil => exact absurd hnil (splitAtMark_ne_nil mark s)
    · next first parts hparts =>
      rw [hparts] at ih
      split at h
      · rcases List.mem_cons.1 h with rfl | h
        · exact List.not_mem_nil
        · exact ih h
      · next hc =>
        rcases List.mem_cons.1 h with rfl | h
        · exact List.not_mem_cons_of_ne_of_not_mem (Ne.symm hc) (ih List.mem_cons_self)
        · exact ih (List.mem_cons_of_mem first h)

/-- A text lists items if it is these with commas between them. -/
structure ListsItems (value : String) (items : List (List Char)) : Prop where
  ne_nil : items ≠ []
  no_comma : ∀ item ∈ items, ',' ∉ item
  text_eq : value.toList = [','].intercalate items

/-- Every text lists items in exactly one way. -/
lemma listsItems_iff {value : String} {items : List (List Char)} :
    ListsItems value items ↔ items = splitAtMark ',' value.toList := by
  constructor
  · intro h
    rw [h.text_eq, splitAtMark_eq_splitOn, List.splitOn_intercalate ',' h.no_comma h.ne_nil]
  · rintro rfl
    exact ⟨splitAtMark_ne_nil _ _, fun item hitem => notMem_of_mem_splitAtMark hitem,
      (intercalate_splitAtMark ',' value.toList).symm⟩

/-- The name that an item of a list gives, unless the item is blank. -/
def itemName? (item : List Char) : Option String :=
  if trim item = [] then none else some (String.ofList (trim item))

def itemNames (items : List (List Char)) : List String :=
  items.filterMap itemName?

lemma ListsItems.listedNames_eq {value : String} {items : List (List Char)}
    (h : ListsItems value items) : listedNames value = itemNames items := by
  rw [listsItems_iff.1 h, listedNames, List.filterMap_map]
  rfl

/-! ### Identifiers of extensions -/

/-- Each identifier once, in the order in which they first occur. -/
structure FirstOccurrences (distinct oids : List Oid) : Prop where
  mem_iff : ∀ oid, oid ∈ distinct ↔ oid ∈ oids
  pairwise : distinct.Pairwise fun a b => oids.idxOf a < oids.idxOf b

namespace FirstOccurrences

variable {distinct oids : List Oid}

lemma nil : FirstOccurrences [] [] := ⟨fun _ => Iff.rfl, .nil⟩

lemma nodup (h : FirstOccurrences distinct oids) : distinct.Nodup :=
  h.pairwise.imp fun hlt heq => Nat.ne_of_lt hlt (congrArg oids.idxOf heq)

/-- What comes behind does not move the first places of what has occurred. -/
lemma pairwise_append (h : FirstOccurrences distinct oids) (behind : List Oid) :
    distinct.Pairwise fun a b => (oids ++ behind).idxOf a < (oids ++ behind).idxOf b := by
  refine h.pairwise.imp_of_mem fun {a b} ha hb hlt => ?_
  rwa [List.idxOf_append_of_mem ((h.mem_iff a).1 ha), List.idxOf_append_of_mem ((h.mem_iff b).1 hb)]

/-- One more identifier is put at the end unless it has occurred before. -/
lemma add (h : FirstOccurrences distinct oids) (oid : Oid) :
    FirstOccurrences (if oid ∈ distinct then distinct else distinct ++ [oid]) (oids ++ [oid]) := by
  split
  · next hold =>
    refine ⟨fun other => ?_, h.pairwise_append [oid]⟩
    rw [List.mem_append, List.mem_singleton, h.mem_iff, iff_self_or]
    rintro rfl
    exact (h.mem_iff other).1 hold
  · next hnew =>
    have hnew' : oid ∉ oids := fun hmem => hnew ((h.mem_iff oid).2 hmem)
    refine ⟨fun other => by rw [List.mem_append, List.mem_append, h.mem_iff], ?_⟩
    refine List.pairwise_append.2 ⟨h.pairwise_append [oid], List.pairwise_singleton _ _, ?_⟩
    intro a ha b hb
    obtain rfl := List.mem_singleton.1 hb
    rw [List.idxOf_append_of_mem ((h.mem_iff a).1 ha), List.idxOf_append_of_notMem hnew']
    exact Nat.lt_add_right _ (List.idxOf_lt_length_of_mem ((h.mem_iff a).1 ha))

end FirstOccurrences

variable {catalog : Catalog}

lemma findExtensions_of_known {names : List String}
    (hknown : ∀ name ∈ names, catalog.extensionOid name ≠ none) {found oids : List Oid}
    (hfound : FirstOccurrences found oids) :
    ∃ extensions, findExtensions catalog found names = .ok extensions
      ∧ FirstOccurrences extensions (oids ++ names.filterMap catalog.extensionOid) := by
  induction names generalizing found oids with
  | nil => exact ⟨found, rfl, by simpa using hfound⟩
  | cons name names ih =>
    obtain ⟨hname, hnames⟩ := List.forall_mem_cons.1 hknown
    obtain ⟨oid, hoid⟩ := Option.ne_none_iff_exists'.1 hname
    obtain ⟨extensions, hok, hfirst⟩ := ih hnames (hfound.add oid)
    refine ⟨extensions, ?_, ?_⟩
    · rw [findExtensions]
      simp only [hoid]
      exact hok
    · rwa [List.filterMap_cons_some hoid, List.append_cons]

/-- The only fault is the first name that is not known. -/
lemma findExtensions_eq_error_iff {names : List String} {found : List Oid} {fault : Fault} :
    findExtensions catalog found names = .error fault ↔
      ∃ name, names.find? (catalog.extensionOid · = none) = some name
        ∧ fault = .unknownExtension name := by
  induction names generalizing found with
  | nil => simp [findExtensions]
  | cons name names ih =>
    rw [findExtensions]
    cases hoid : catalog.extensionOid name with
    | none => simp [hoid, eq_comm]
    | some oid => simp only [ih, List.find?_cons, hoid, reduceCtorEq, decide_false]

/-! ### Shipping -/

section Shipping

variable {policy other : ShippingPolicy} {object : CatalogObject} {s : ShippingState}
  {name : String} {during : ShippingState → ShippingState}

/-- What the host does not define is shipped if a trusted extension owns it. -/
lemma ShippingPolicy.verdict_eq_true_iff (hoid : firstUserOid ≤ object.oid) {owner : Option Oid} :
    policy.verdict object owner = true ↔
      ∃ extension, owner = some extension ∧ extension ∈ policy.extensions := by
  have hbuiltin : ¬isBuiltin object.oid = true := by
    simpa [isBuiltin] using hoid
  unfold verdict
  rw [if_neg hbuiltin]
  split
  · next hnil => simp [hnil]
  · cases owner <;> simp

/-- If nothing is remembered for an object, neither before the walk nor at its end, the answer is
the one that the catalog gives. -/
lemma ShippingState.ask_of_not_remembered
    (hbefore : (s.entries name).lookup ⟨object, policy.server⟩ = none)
    (hafter : ((during { s with walks := s.walks + 1 }).entries name).lookup ⟨object, policy.server⟩
      = none) :
    (s.ask name policy object during).1 = policy.verdict object (s.catalog.owner object) := by
  cases hkey : policy.key? object with
  | none =>
    rw [ask_of_known (ShippingCache.known?_of_key?_eq_none hkey (s.catalog.owner object))]
  | some key =>
    have hunknown : (s.entries name).known? policy object = none := by
      rw [ShippingCache.known?_of_key? hkey, (ShippingPolicy.eq_of_key? hkey).2.2, hbefore]
    rw [ask_of_unknown hunknown, ShippingCache.recalled_of_lookup_eq_none hafter,
      s.catalog.trusts_eq_verdict hkey]

/-- Policies that trust the same extensions are not told apart. -/
lemma ShippingState.ask_congr (hserver : policy.server = other.server)
    (hextensions : ∀ oid, oid ∈ policy.extensions ↔ oid ∈ other.extensions) :
    s.ask name policy object during = s.ask name other object during := by
  have hnil : policy.extensions = [] ↔ other.extensions = [] := by
    simp only [List.eq_nil_iff_forall_not_mem, hextensions]
  have hknown : (s.entries name).known? policy object = (s.entries name).known? other object := by
    simp only [ShippingCache.known?, hnil, hserver]
  have htrusts : s.catalog.trusts policy object = s.catalog.trusts other object := by
    simp only [Catalog.trusts, hextensions]
  rw [ask, ask, hknown, htrusts, hserver]

end Shipping

/-! ### From the option to the answers -/

namespace ServerOptions

section

variable {options : OptionList} {database value : String} {items : List (List Char)}

lemma ofList_eq_of_listsItems (hdatabase : options.find? "database" = some database)
    (hvalue : options.find? "extensions" = some value) (hitems : ListsItems value items) :
    ofList catalog options = (findExtensions catalog [] (itemNames items)).map (mk database) := by
  rw [ofList, hdatabase, hvalue]
  simp only [Option.map_some, Option.getD_some, hitems.listedNames_eq]
  cases findExtensions catalog [] (itemNames items) <;> rfl

lemma ofList_eq_error_iff (hdatabase : options.find? "database" = some database)
    (hvalue : options.find? "extensions" = some value) (hitems : ListsItems value items)
    (name : String) :
    ofList catalog options = .error (.unknownExtension name) ↔
      (itemNames items).find? (catalog.extensionOid · = none) = some name := by
  have hfault : ofList catalog options = .error (.unknownExtension name) ↔
      findExtensions catalog [] (itemNames items) = .error (.unknownExtension name) := by
    rw [ofList_eq_of_listsItems hdatabase hvalue hitems]
    cases findExtensions catalog [] (itemNames items) <;> simp [Except.map]
  rw [hfault, findExtensions_eq_error_iff]
  simp

lemma exists_ofList_eq_ok (hdatabase : options.find? "database" = some database)
    (hvalue : options.find? "extensions" = some value) (hitems : ListsItems value items)
    (hknown : ∀ listed ∈ itemNames items, catalog.extensionOid listed ≠ none) :
    ∃ extensions, ofList catalog options = .ok ⟨database, extensions⟩
      ∧ FirstOccurrences extensions ((itemNames items).filterMap catalog.extensionOid) := by
  obtain ⟨extensions, hok, hfirst⟩ := findExtensions_of_known hknown .nil
  refine ⟨extensions, ?_, hfirst⟩
  rw [ofList_eq_of_listsItems hdatabase hvalue hitems, hok]
  rfl

section Answers

variable {items' : List (List Char)} {extensions extensions' : List Oid} {s : ShippingState}
  {cache : String} {server : Oid} {object : CatalogObject} {during : List ShippingStep}

/-- Where nothing is remembered, what the host does not define is shipped exactly if an extension
that is listed owns it. -/
lemma run_ask_eq_some_true_iff
    (hfirst : FirstOccurrences extensions ((itemNames items).filterMap catalog.extensionOid))
    (hoid : firstUserOid ≤ object.oid) (hbefore : (s.entries cache).lookup ⟨object, server⟩ = none)
    (hafter : ((ShippingStep.runAll during { s with walks := s.walks + 1 }).entries cache).lookup
      ⟨object, server⟩ = none) :
    ((ShippingStep.ask cache ⟨server, extensions⟩ object during).run s).1 = some true ↔
      ∃ listed ∈ itemNames items, ∃ extension,
        catalog.extensionOid listed = some extension
          ∧ s.catalog.owner object = some extension := by
  change some (s.ask cache ⟨server, extensions⟩ object (ShippingStep.runAll during)).1
    = some true ↔ _
  rw [ShippingState.ask_of_not_remembered hbefore hafter, Option.some_inj,
    ShippingPolicy.verdict_eq_true_iff hoid]
  simp only [hfirst.mem_iff, List.mem_filterMap]
  constructor
  · rintro ⟨extension, howner, listed, hlisted, hextension⟩
    exact ⟨listed, hlisted, extension, hextension, howner⟩
  · rintro ⟨listed, hlisted, extension, hextension, howner⟩
    exact ⟨extension, howner, listed, hlisted, hextension⟩

/-- Lists of the same names are not told apart. -/
lemma run_ask_congr
    (hfirst : FirstOccurrences extensions ((itemNames items).filterMap catalog.extensionOid))
    (hfirst' : FirstOccurrences extensions' ((itemNames items').filterMap catalog.extensionOid))
    (hsame : ∀ name, name ∈ itemNames items' ↔ name ∈ itemNames items) :
    (ShippingStep.ask cache ⟨server, extensions'⟩ object during).run s
      = (ShippingStep.ask cache ⟨server, extensions⟩ object during).run s := by
  have hask : s.ask cache ⟨server, extensions'⟩ object (ShippingStep.runAll during)
      = s.ask cache ⟨server, extensions⟩ object (ShippingStep.runAll during) := by
    refine ShippingState.ask_congr rfl fun oid => ?_
    change oid ∈ extensions' ↔ oid ∈ extensions
    simp only [hfirst.mem_iff, hfirst'.mem_iff, List.mem_filterMap, hsame]
  rw [ShippingStep.run, ShippingStep.run, hask]

end Answers

/-- From the text of the option to the answers of a cache: the options of a server are refused for
the first item that is no extension of the catalog; otherwise its extensions are those of the items,
each at its first place, and what the host does not define is shipped exactly if one of them owns
it. Any other text with the same names, in whatever order and however often, is as good. -/
theorem trusts_listed (catalog : Catalog) (hdatabase : options.find? "database" = some database)
    (hvalue : options.find? "extensions" = some value) :
    (∃ items, ListsItems value items) ∧ ∀ items, ListsItems value items →
      (∀ name, ofList catalog options = .error (.unknownExtension name) ↔
        (itemNames items).find? (catalog.extensionOid · = none) = some name)
      ∧ ((∀ listed ∈ itemNames items, catalog.extensionOid listed ≠ none) →
        ∃ extensions, ofList catalog options = .ok ⟨database, extensions⟩
          ∧ extensions.Nodup
          ∧ FirstOccurrences extensions ((itemNames items).filterMap catalog.extensionOid)
          ∧ (∀ (s : ShippingState) (cache : String) (server : Oid) (object : CatalogObject)
              (during : List ShippingStep), firstUserOid ≤ object.oid →
              (s.entries cache).lookup ⟨object, server⟩ = none →
              ((ShippingStep.runAll during { s with walks := s.walks + 1 }).entries cache).lookup
                ⟨object, server⟩ = none →
              (((ShippingStep.ask cache ⟨server, extensions⟩ object during).run s).1 = some true ↔
                ∃ listed ∈ itemNames items, ∃ extension,
                  catalog.extensionOid listed = some extension
                    ∧ s.catalog.owner object = some extension))
          ∧ ∀ (options' : OptionList) (database' value' : String) (items' : List (List Char)),
              options'.find? "database" = some database' →
              options'.find? "extensions" = some value' → ListsItems value' items' →
              (∀ name, name ∈ itemNames items' ↔ name ∈ itemNames items) →
              ∃ extensions', ofList catalog options' = .ok ⟨database', extensions'⟩
                ∧ ∀ (s : ShippingState) (cache : String) (server : Oid) (object : CatalogObject)
                  (during : List ShippingStep),
                  (ShippingStep.ask cache ⟨server, extensions'⟩ object during).run s
                    = (ShippingStep.ask cache ⟨server, extensions⟩ object during).run s) := by
  refine ⟨⟨_, listsItems_iff.2 rfl⟩, fun items hitems => ⟨?_, fun hknown => ?_⟩⟩
  · exact ofList_eq_error_iff hdatabase hvalue hitems
  obtain ⟨extensions, hok, hfirst⟩ := exists_ofList_eq_ok hdatabase hvalue hitems hknown
  refine ⟨extensions, hok, hfirst.nodup, hfirst, ?_, ?_⟩
  · intro s cache server object during hoid hbefore hafter
    exact run_ask_eq_some_true_iff hfirst hoid hbefore hafter
  · intro options' database' value' items' hdatabase' hvalue' hitems' hsame
    have hknown' : ∀ listed ∈ itemNames items', catalog.extensionOid listed ≠ none :=
      fun listed hlisted => hknown listed ((hsame listed).1 hlisted)
    obtain ⟨extensions', hok', hfirst'⟩ := exists_ofList_eq_ok hdatabase' hvalue' hitems' hknown'
    exact ⟨extensions', hok', fun s cache server object during =>
      run_ask_congr hfirst hfirst' hsame⟩

end

/-- One extension under two names, and a function that it owns. -/
def aliasedCatalog : Catalog :=
  ((Catalog.empty.addExtension "cube" 30001).addExtension "earth" 30001).setOwner
    ⟨.function, 16001⟩ (some 30001)

/-- A list that names an extension three times, with a blank item. -/
def aliasedOptions : OptionList :=
  [("database", "shop.db"), ("extensions", " cube,, earth ,cube")]

theorem trusts_listed_aliased :
    aliasedOptions.find? "database" = some "shop.db"
      ∧ aliasedOptions.find? "extensions" = some " cube,, earth ,cube"
      ∧ ofList aliasedCatalog aliasedOptions = .ok ⟨"shop.db", [30001]⟩
      ∧ ((ShippingStep.ask "a" ⟨40000, [30001]⟩ ⟨.function, 16001⟩ []).run
          ⟨aliasedCatalog, [⟨"a", true, []⟩], 0⟩).1 = some true
      ∧ ∃ extensions, ofList aliasedCatalog [("extensions", "earth,cube"), ("database", "b.db")]
          = .ok ⟨"b.db", extensions⟩ := by
  have hdatabase : aliasedOptions.find? "database" = some "shop.db" := rfl
  have hvalue : aliasedOptions.find? "extensions" = some " cube,, earth ,cube" := rfl
  have hitems : ListsItems " cube,, earth ,cube"
      [" cube".toList, [], " earth ".toList, "cube".toList] :=
    ⟨by decide, by decide, by decide⟩
  have hitems' : ListsItems "earth,cube" ["earth".toList, "cube".toList] :=
    ⟨by decide, by decide, by decide⟩
  have hnames : itemNames [" cube".toList, [], " earth ".toList, "cube".toList]
      = ["cube", "earth", "cube"] := by decide
  have hnames' : itemNames ["earth".toList, "cube".toList] = ["earth", "cube"] := by decide
  have hlist := (trusts_listed aliasedCatalog hdatabase hvalue).2 _ hitems
  obtain ⟨extensions, hok, -, -, hanswer, hsame⟩ := hlist.2 (by rw [hnames]; decide)
  have hrun : ofList aliasedCatalog aliasedOptions = .ok ⟨"shop.db", [30001]⟩ := by decide
  obtain rfl : extensions = [30001] := by
    rw [hrun] at hok
    cases hok
    rfl
  obtain ⟨extensions', hok', -⟩ := hsame [("extensions", "earth,cube"), ("database", "b.db")] "b.db"
    "earth,cube" _ rfl rfl hitems' (by rw [hnames, hnames']; simp)
  refine ⟨hdatabase, hvalue, hok, ?_, extensions', hok'⟩
  refine (hanswer _ "a" 40000 ⟨.function, 16001⟩ [] (by decide) rfl rfl).2 ?_
  exact ⟨"cube", by rw [hnames]; decide, 30001, rfl, rfl⟩

end ServerOptions

end ForeignData
