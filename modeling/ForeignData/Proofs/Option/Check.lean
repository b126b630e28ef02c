import Mathlib.Data.List.Perm.Basic
import ForeignData.Option.Source
import ForeignData.Proofs.Option.Trust
import ForeignData.Proofs.Text.Casing

/-!
# Checked options

Which option lists pass the check, and that nothing is left to go wrong when a list that has passed
is read, except that the catalog may not know an extension. The check goes through a list in order
and stops at the first fault, but what passes does not depend on the order; and as no name is
repeated, nor does what is read.
-/

namespace ForeignData

variable {files : String → FileStatus} {context : OptionContext}

/-! ### Lists of pairs -/

def OptionList.names (options : OptionList) : List String :=
  options.map Prod.fst

namespace OptionList

variable {options options' : OptionList} {name value : String}

/-- If no name is repeated, what is found under a name is what is listed under it. -/
lemma find?_eq_some_iff (h : options.names.Nodup) :
    options.find? name = some value ↔ (name, value) ∈ options := by
  rw [find?, List.lookup_eq_some_iff]
  constructor
  · rintro ⟨before, behind, rfl, -⟩
    exact List.mem_append_right before List.mem_cons_self
  · intro hmem
    obtain ⟨before, behind, rfl⟩ := List.append_of_mem hmem
    refine ⟨before, behind, rfl, fun o ho => bne_iff_ne.2 ?_⟩
    rw [names, List.map_append, List.nodup_append] at h
    exact (h.2.2 o.1 (List.mem_map_of_mem ho) name List.mem_cons_self).symm

lemma find?_eq_none_iff : options.find? name = none ↔ name ∉ options.names := by
  rw [find?, List.lookup_eq_none_iff, names, List.mem_map]
  constructor
  · rintro h ⟨o, ho, rfl⟩
    exact bne_iff_ne.1 (h o ho) rfl
  · intro h o ho
    exact bne_iff_ne.2 fun heq => h ⟨o, ho, heq.symm⟩

/-- Without repeated names the order of a list does not matter. -/
lemma find?_of_perm (h : options.names.Nodup) (hperm : options.Perm options') (name : String) :
    options'.find? name = options.find? name := by
  have h' : options'.names.Nodup := (hperm.map Prod.fst).nodup_iff.1 h
  apply Option.ext
  intro value
  rw [find?_eq_some_iff h, find?_eq_some_iff h', hperm.mem_iff]

end OptionList

/-! ### What passes -/

/-- What an option list has to be to pass the check. -/
structure OptionList.IsValid (files : String → FileStatus) (context : OptionContext)
    (options : OptionList) : Prop where
  known : ∀ name ∈ options.names, name ∈ context.names
  distinct : options.names.Nodup
  database : ∀ path, ("database", path) ∈ options → files path = .file
  policy : ∀ value, ("on_conversion_error", value) ∈ options →
    SpellsInAnyCase "error" value ∨ SpellsInAnyCase "null" value
  complete : context = .server → "database" ∈ options.names

lemma ConversionPolicy.read_eq_ok_iff {value : String} {policy : ConversionPolicy} :
    read value = .ok policy ↔ policy = .error ∧ SpellsInAnyCase "error" value
      ∨ policy = .nullIfNullable ∧ SpellsInAnyCase "null" value := by
  have herror : lowerAscii value = "error" ↔ SpellsInAnyCase "error" value :=
    lowerAscii_eq_iff (by decide)
  have hnull : lowerAscii value = "null" ↔ SpellsInAnyCase "null" value :=
    lowerAscii_eq_iff (by decide)
  rw [← herror, ← hnull, read]
  split
  case h_1 heq => simp [heq, eq_comm]
  case h_2 heq => simp [heq, eq_comm]
  case h_3 hne hne' =>
    simp only [reduceCtorEq, false_iff, not_or, not_and]
    exact ⟨fun _ => hne, fun _ => hne'⟩

lemma fileExists_eq_ok_true_iff {path : String} :
    fileExists files path = .ok true ↔ files path = .file := by
  unfold fileExists
  cases files path <;> simp

lemma checkValue_eq_ok_iff {name value : String} :
    checkValue files name value = .ok () ↔ (name = "database" → files value = .file)
      ∧ (name = "on_conversion_error" →
        SpellsInAnyCase "error" value ∨ SpellsInAnyCase "null" value) := by
  unfold checkValue
  by_cases hdatabase : name = "database"
  · subst hdatabase
    rw [if_pos rfl, ← fileExists_eq_ok_true_iff]
    cases fileExists files value with
    | error fault => simp [bind, Except.bind]
    | ok found => cases found <;> simp [bind, Except.bind, pure, Except.pure, throw, throwThe,
        MonadExceptOf.throw]
  · rw [if_neg hdatabase]
    by_cases hpolicy : name = "on_conversion_error"
    · subst hpolicy
      rw [if_pos rfl]
      have hread : (ConversionPolicy.read value).map (fun _ => ()) = .ok ()
          ↔ ∃ policy, ConversionPolicy.read value = .ok policy := by
        cases ConversionPolicy.read value <;> simp [Except.map]
      rw [hread]
      simp [ConversionPolicy.read_eq_ok_iff, exists_or]
    · rw [if_neg hpolicy]
      simp [hdatabase, hpolicy, pure, Except.pure]

/-- The check of what is left of a list goes through if each option is a good one and no name has
been seen before. -/
lemma checkFrom_eq_ok_iff {seen seen' : List String} {options : OptionList} :
    checkFrom files context seen options = .ok seen' ↔
      seen' = options.names.reverse ++ seen ∧ options.names.Nodup
        ∧ (∀ name ∈ options.names, name ∉ seen) ∧ (∀ name ∈ options.names, name ∈ context.names)
        ∧ ∀ o ∈ options, checkValue files o.1 o.2 = .ok () := by
  induction options generalizing seen with
  | nil => simp [checkFrom, OptionList.names, eq_comm]
  | cons o options ih =>
    obtain ⟨name, value⟩ := o
    have hnames : OptionList.names ((name, value) :: options)
        = name :: OptionList.names options := rfl
    have hfresh : (∀ n ∈ OptionList.names options, n ∉ name :: seen)
        ↔ name ∉ OptionList.names options ∧ ∀ n ∈ OptionList.names options, n ∉ seen := by
      simp only [List.mem_cons, not_or, imp_and, forall_and]
      exact and_congr_left fun _ => ⟨fun h hmem => h name hmem rfl, fun h n hn heq => h (heq ▸ hn)⟩
    rw [checkFrom, hnames]
    by_cases hknown : name ∈ context.names
    · rw [if_neg (not_not.2 hknown)]
      by_cases hseen : name ∈ seen
      · rw [if_pos hseen]
        simp [hseen]
      · rw [if_neg hseen]
        cases hvalue : checkValue files name value with
        | error fault => simp [hvalue, bind, Except.bind]
        | ok _ =>
          change checkFrom files context (name :: seen) options = .ok seen' ↔ _
          rw [ih, hfresh]
          simp only [List.reverse_cons, List.append_assoc, List.singleton_append, List.nodup_cons,
            List.forall_mem_cons, hknown, hseen, hvalue, not_false_eq_true, true_and]
          constructor
          · rintro ⟨rfl, hdistinct, ⟨hname, hold⟩, hrest⟩
            exact ⟨rfl, ⟨hname, hdistinct⟩, hold, hrest⟩
          · rintro ⟨rfl, ⟨hname, hdistinct⟩, hold, hrest⟩
            exact ⟨rfl, hdistinct, ⟨hname, hold⟩, hrest⟩
    · rw [if_pos hknown]
      simp [hknown]

lemma checkOptions_eq_ok_iff {options : OptionList} :
    checkOptions files context options = .ok () ↔ options.IsValid files context := by
  have hvalues : (∀ o ∈ options, checkValue files o.1 o.2 = .ok ()) ↔
      (∀ path, ("database", path) ∈ options → files path = .file)
        ∧ ∀ value, ("on_conversion_error", value) ∈ options →
          SpellsInAnyCase "error" value ∨ SpellsInAnyCase "null" value := by
    simp only [checkValue_eq_ok_iff]
    constructor
    · intro h
      exact ⟨fun path hmem => (h _ hmem).1 rfl, fun value hmem => (h _ hmem).2 rfl⟩
    · rintro ⟨hdatabase, hpolicy⟩ ⟨name, value⟩ hmem
      refine ⟨?_, ?_⟩
      · rintro rfl
        exact hdatabase value hmem
      · rintro rfl
        exact hpolicy value hmem
  have hchecked : checkOptions files context options = .ok () ↔
      ∃ seen, checkFrom files context [] options = .ok seen
        ∧ ¬(context = .server ∧ "database" ∉ seen) := by
    have hrun : checkOptions files context options
        = (checkFrom files context [] options).bind fun seen =>
          if context = .server ∧ "database" ∉ seen then .error .missingDatabase else .ok () := rfl
    rw [hrun]
    cases checkFrom files context [] options <;> simp [Except.bind]
  rw [hchecked]
  simp only [checkFrom_eq_ok_iff, hvalues, List.append_nil, List.not_mem_nil, not_false_eq_true,
    implies_true, true_and]
  constructor
  · rintro ⟨seen, ⟨rfl, hdistinct, hknown, hdatabase, hpolicy⟩, hcomplete⟩
    refine ⟨hknown, hdistinct, hdatabase, hpolicy, fun hserver => ?_⟩
    by_contra hmissing
    exact hcomplete ⟨hserver, by rwa [List.mem_reverse]⟩
  · intro h
    refine ⟨_, ⟨rfl, h.distinct, h.known, h.database, h.policy⟩, ?_⟩
    rintro ⟨hserver, hmissing⟩
    exact hmissing (List.mem_reverse.2 (h.complete hserver))

namespace OptionList

variable {options options' : OptionList}

/-- Whether a list is valid does not depend on its order. -/
lemma IsValid.perm (h : options.IsValid files context) (hperm : options.Perm options') :
    options'.IsValid files context := by
  have hnames : options.names.Perm options'.names := hperm.map Prod.fst
  exact
    { known := fun name hname => h.known name (hnames.mem_iff.2 hname)
      distinct := hnames.nodup_iff.1 h.distinct
      database := fun path hpath => h.database path (hperm.mem_iff.2 hpath)
      policy := fun value hvalue => h.policy value (hperm.mem_iff.2 hvalue)
      complete := fun hserver => hnames.mem_iff.1 (h.complete hserver) }

lemma isValid_perm_iff (hperm : options.Perm options') :
    options.IsValid files context ↔ options'.IsValid files context :=
  ⟨fun h => h.perm hperm, fun h => h.perm hperm.symm⟩

/-- A policy that a list of options names, in any case, or the strict one if it names none. -/
inductive NamesPolicy (options : OptionList) : ConversionPolicy → Prop
  | error {value : String} (hvalue : ("on_conversion_error", value) ∈ options)
    (hspells : SpellsInAnyCase "error" value) : NamesPolicy options .error
  | null {value : String} (hvalue : ("on_conversion_error", value) ∈ options)
    (hspells : SpellsInAnyCase "null" value) : NamesPolicy options .nullIfNullable
  | none (hnone : "on_conversion_error" ∉ options.names) : NamesPolicy options .error

end OptionList

/-! ### What is read -/

lemma TableOptions.exists_ofList_eq_ok {options : OptionList}
    (h : options.IsValid files context) :
    ∃ policy, TableOptions.ofList options = .ok ⟨options.find? "table", policy⟩
      ∧ options.NamesPolicy policy := by
  unfold TableOptions.ofList
  cases hfind : options.find? "on_conversion_error" with
  | none => exact ⟨.error, rfl, .none (OptionList.find?_eq_none_iff.1 hfind)⟩
  | some value =>
    have hmem := (OptionList.find?_eq_some_iff h.distinct).1 hfind
    rcases h.policy value hmem with herror | hnull
    · have hread := ConversionPolicy.read_eq_ok_iff.2 (.inl ⟨rfl, herror⟩)
      exact ⟨.error, by simp only [hread]; rfl, .error hmem herror⟩
    · have hread := ConversionPolicy.read_eq_ok_iff.2 (.inr ⟨rfl, hnull⟩)
      exact ⟨.nullIfNullable, by simp only [hread]; rfl, .null hmem hnull⟩

/-- The options of a valid list for a server can be read unless it lists an extension that the
catalog does not know. -/
lemma ServerOptions.ofList_of_isValid (catalog : Catalog) {options : OptionList}
    (h : options.IsValid files .server) :
    ∃ database, ("database", database) ∈ options
      ∧ ((∃ extensions, ofList catalog options = .ok ⟨database, extensions⟩)
        ∨ ∃ value name, ("extensions", value) ∈ options ∧ name ∈ listedNames value
          ∧ catalog.extensionOid name = none
          ∧ ofList catalog options = .error (.unknownExtension name)) := by
  have hsome : options.find? "database" ≠ none :=
    fun hnone => OptionList.find?_eq_none_iff.1 hnone (h.complete rfl)
  obtain ⟨database, hdatabase⟩ := Option.ne_none_iff_exists'.1 hsome
  refine ⟨database, (OptionList.find?_eq_some_iff h.distinct).1 hdatabase, ?_⟩
  have hread : ofList catalog options = (findExtensions catalog []
      (((options.find? "extensions").map listedNames).getD [])).map (mk database) := by
    simp only [ofList, hdatabase]
    cases findExtensions catalog [] (((options.find? "extensions").map listedNames).getD []) <;> rfl
  rw [hread]
  cases hfound : findExtensions catalog []
      (((options.find? "extensions").map listedNames).getD []) with
  | ok extensions => exact .inl ⟨extensions, rfl⟩
  | error fault =>
    obtain ⟨name, hname, rfl⟩ := findExtensions_eq_error_iff.1 hfound
    cases hvalue : options.find? "extensions" with
    | none =>
      rw [hvalue] at hname
      cases hname
    | some value =>
      rw [hvalue] at hname
      refine .inr ⟨value, name, (OptionList.find?_eq_some_iff h.distinct).1 hvalue,
        List.mem_of_find?_eq_some hname, ?_, rfl⟩
      have htest := List.find?_some hname
      exact of_decide_eq_true htest

/-- What is read of a list depends on nothing but what is found under each name. -/
lemma ServerOptions.ofList_of_perm (catalog : Catalog) {options options' : OptionList}
    (h : options.names.Nodup) (hperm : options.Perm options') :
    ofList catalog options' = ofList catalog options := by
  rw [ofList, ofList, OptionList.find?_of_perm h hperm, OptionList.find?_of_perm h hperm]

lemma TableOptions.ofList_of_perm {options options' : OptionList} (h : options.names.Nodup)
    (hperm : options.Perm options') : ofList options' = ofList options := by
  rw [ofList, ofList, OptionList.find?_of_perm h hperm, OptionList.find?_of_perm h hperm]

/-! ### Sources -/

/-- The source of a foreign table as the lists of its server and of the table itself say: the
database of the server, the remote name or else its own one, and the policy. -/
structure TableSource.IsListed (server table : OptionList) (name : String)
    (source : TableSource) : Prop where
  database : ("database", source.database) ∈ server
  remoteName : ("table", source.table) ∈ table ∨ "table" ∉ table.names ∧ source.table = name
  policy : table.NamesPolicy source.policy

lemma TableSource.isListed_resolve {catalog : Catalog} {server table : OptionList}
    (hserver : server.IsValid files .server) (htable : table.IsValid files .table)
    {s : ServerOptions} {t : TableOptions} (hs : ServerOptions.ofList catalog server = .ok s)
    (ht : TableOptions.ofList table = .ok t) (name : String) :
    (resolve s t name).IsListed server table name := by
  obtain ⟨policy, hread, hpolicy⟩ := TableOptions.exists_ofList_eq_ok htable
  obtain ⟨database, hdatabase, ⟨extensions, hok⟩ | ⟨value, unknown, -, -, -, herror⟩⟩ :=
    ServerOptions.ofList_of_isValid catalog hserver
  · rw [hok] at hs
    rw [hread] at ht
    cases hs
    cases ht
    refine ⟨hdatabase, ?_, hpolicy⟩
    cases hfind : table.find? "table" with
    | none => exact .inr ⟨OptionList.find?_eq_none_iff.1 hfind, rfl⟩
    | some remote => exact .inl ((OptionList.find?_eq_some_iff htable.distinct).1 hfind)
  · rw [herror] at hs
    cases hs

/-- The check passes exactly the valid lists, in whatever order. A list for a table that has passed
can be read, and one for a server unless it lists an extension that the catalog does not know. The
order of what has passed makes no difference to what is read, and the source that comes of it is the
one that the lists name. -/
theorem checked_options_are_read (files : String → FileStatus) :
    (∀ (context : OptionContext) (options : OptionList),
        (checkOptions files context options = .ok () ↔ options.IsValid files context)
        ∧ ∀ options' : OptionList, options.Perm options' →
          (checkOptions files context options' = .ok () ↔
            checkOptions files context options = .ok ()))
      ∧ (∀ table : OptionList, checkOptions files .table table = .ok () →
        ∃ t, ∀ table' : OptionList, table.Perm table' → TableOptions.ofList table' = .ok t)
      ∧ ∀ (catalog : Catalog) (server : OptionList), checkOptions files .server server = .ok () →
        ((∃ s, ServerOptions.ofList catalog server = .ok s)
          ∨ ∃ value extension, ("extensions", value) ∈ server ∧ extension ∈ listedNames value
            ∧ catalog.extensionOid extension = none
            ∧ ServerOptions.ofList catalog server = .error (.unknownExtension extension))
        ∧ (∀ server' : OptionList, server.Perm server' →
          ServerOptions.ofList catalog server' = ServerOptions.ofList catalog server)
        ∧ ∀ (table : OptionList) (s : ServerOptions) (t : TableOptions) (name : String),
          checkOptions files .table table = .ok () →
          ServerOptions.ofList catalog server = .ok s → TableOptions.ofList table = .ok t →
          (TableSource.resolve s t name).IsListed server table name := by
  refine ⟨fun context options => ⟨checkOptions_eq_ok_iff, fun options' hperm => ?_⟩,
    fun table htable => ?_, fun catalog server hserver => ?_⟩
  · rw [checkOptions_eq_ok_iff, checkOptions_eq_ok_iff, OptionList.isValid_perm_iff hperm]
  · rw [checkOptions_eq_ok_iff] at htable
    obtain ⟨policy, hread, -⟩ := TableOptions.exists_ofList_eq_ok htable
    exact ⟨_, fun table' hperm =>
      (TableOptions.ofList_of_perm htable.distinct hperm).trans hread⟩
  · rw [checkOptions_eq_ok_iff] at hserver
    refine ⟨?_, fun server' hperm => ServerOptions.ofList_of_perm catalog hserver.distinct hperm,
      fun table s t name htable hs ht => ?_⟩
    · obtain ⟨database, -, ⟨extensions, hok⟩ | hunknown⟩ :=
        ServerOptions.ofList_of_isValid catalog hserver
      · exact .inl ⟨_, hok⟩
      · exact .inr hunknown
    · exact TableSource.isListed_resolve hserver (checkOptions_eq_ok_iff.1 htable) hs ht name

def shelf (path : String) : FileStatus :=
  if path = "shop.db" then .file else .absent

/-- A list with the policy in capitals, checked and read in both orders. -/
theorem checked_options_are_read_shelf :
    checkOptions shelf .server [("extensions", "cube"), ("database", "shop.db")] = .ok ()
      ∧ checkOptions shelf .table [("on_conversion_error", "NULL"), ("table", "goods")] = .ok ()
      ∧ (∃ t, TableOptions.ofList [("on_conversion_error", "NULL"), ("table", "goods")] = .ok t
        ∧ TableOptions.ofList [("table", "goods"), ("on_conversion_error", "NULL")] = .ok t)
      ∧ ServerOptions.ofList Catalog.empty [("extensions", "cube"), ("database", "shop.db")]
        = .error (.unknownExtension "cube")
      ∧ ∃ value extension, ("extensions", value) ∈ [("extensions", "cube"), ("database", "shop.db")]
        ∧ extension ∈ listedNames value ∧ Catalog.empty.extensionOid extension = none := by
  have hserver : checkOptions shelf .server [("extensions", "cube"), ("database", "shop.db")]
      = .ok () := by decide
  have htable : checkOptions shelf .table [("on_conversion_error", "NULL"), ("table", "goods")]
      = .ok () := by decide
  have hrefused : ServerOptions.ofList Catalog.empty
      [("extensions", "cube"), ("database", "shop.db")] = .error (.unknownExtension "cube") := by
    decide
  obtain ⟨-, hread, hlists⟩ := checked_options_are_read shelf
  obtain ⟨t, ht⟩ := hread _ htable
  obtain ⟨⟨s, hok⟩ | ⟨value, extension, hvalue, hlisted, hunknown, -⟩, -, -⟩ :=
    hlists Catalog.empty _ hserver
  · rw [hrefused] at hok
    cases hok
  · exact ⟨hserver, htable, ⟨t, ht _ (.refl _), ht _ (.swap _ _ _)⟩, hrefused, value, extension,
      hvalue, hlisted, hunknown⟩

end ForeignData
