import Mathlib.Tactic
import Collabio.Search.Keyword

/-!
# Raw payload keys

The audit sink of the vector worker refuses metadata in which some dictionary, at whatever depth,
has a key that names raw payload.

* `LeadsToPayload`        — a way from the metadata to such a key;
* `find_eq_some`          — what the search reports is such a way;
* `payload_keys_refused`  — the search misses none.
-/

namespace Collabio

/-- What metadata is built from. Of a key, only its text is looked at, and of other values
nothing. -/
inductive AuditValue where
  | dict (items : List (String × AuditValue))
  | list (items : List AuditValue)
  | tuple (items : List AuditValue)
  | other

/-- `FORBIDDEN_VECTOR_WORKER_AUDIT_METADATA_KEYS`. -/
def forbiddenVectorWorkerAuditMetadataKeys : List String :=
  ["answer", "embedding", "embeddings", "generated_answer", "output", "output_text", "prompt",
    "prompt_text", "raw_audio", "raw_embedding", "raw_embeddings", "source_text", "transcript"]

/-- `key_text.lower()`, as far as its characters may become ASCII. -/
def normalizedKey (keyText : String) : String :=
  String.ofList (keyText.toList.flatMap lowerTokenChar)

def IsPayloadKey (keyText : String) : Prop :=
  normalizedKey keyText ∈ forbiddenVectorWorkerAuditMetadataKeys

instance (keyText : String) : Decidable (IsPayloadKey keyText) :=
  inferInstanceAs (Decidable (_ ∈ _))

/-- `f"{path}.{key_text}" if path else key_text`. -/
def keyPath (path keyText : String) : String :=
  if path = "" then keyText else path ++ "." ++ keyText

/-- `f"{path}[{index}]"`. -/
def indexPath (path : String) (index : Nat) : String := path ++ "[" ++ toString index ++ "]"

mutual

/-- `_find_unsafe_vector_worker_audit_metadata_key`. -/
def findUnsafeVectorWorkerAuditMetadataKey (path : String) : AuditValue → Option String
  | .dict items => findInItems path items
  | .list items => findInElements path 0 items
  | .tuple items => findInElements path 0 items
  | .other => none

/-- Its loop over the items of a dictionary. -/
def findInItems (path : String) : List (String × AuditValue) → Option String
  | [] => none
  | (keyText, nested) :: rest =>
    if IsPayloadKey keyText then some (keyPath path keyText)
    else
      match findUnsafeVectorWorkerAuditMetadataKey (keyPath path keyText) nested with
      | some found => some found
      | none => findInItems path rest

/-- Its loop over the elements of a sequence, from an index on. -/
def findInElements (path : String) (index : Nat) : List AuditValue → Option String
  | [] => none
  | nested :: rest =>
    match findUnsafeVectorWorkerAuditMetadataKey (indexPath path index) nested with
    | some found => some found
    | none => findInElements path (index + 1) rest

end

/-- `_assert_safe_vector_worker_audit_metadata`. -/
def assertSafeVectorWorkerAuditMetadata (metadata : AuditValue) : Except Exn Unit :=
  match findUnsafeVectorWorkerAuditMetadataKey "" metadata with
  | some found => .error (.valueError (.message
      ("vector worker audit metadata must not include raw payload field: " ++ found)))
  | none => .ok ()

/-! ## Ways into the metadata -/

inductive MetadataStep where
  | key (keyText : String)
  | index (i : Nat)
  deriving DecidableEq, Repr

/-- The text of a path, one step longer. -/
def MetadataStep.extend (path : String) : MetadataStep → String
  | .key keyText => keyPath path keyText
  | .index i => indexPath path i

/-- The text of the steps, behind that of a path. -/
def pathText (path : String) (steps : List MetadataStep) : String :=
  steps.foldl MetadataStep.extend path

/-- The steps lead from the value to a key of raw payload: the last step is that key, and the
others go through keys and indices of what is nested. -/
inductive LeadsToPayload : AuditValue → List MetadataStep → Prop
  | here {items keyText nested} : (keyText, nested) ∈ items → IsPayloadKey keyText →
      LeadsToPayload (.dict items) [.key keyText]
  | member {items keyText nested steps} : (keyText, nested) ∈ items →
      LeadsToPayload nested steps → LeadsToPayload (.dict items) (.key keyText :: steps)
  | listElement {items i nested steps} : items[i]? = some nested → LeadsToPayload nested steps →
      LeadsToPayload (.list items) (.index i :: steps)
  | tupleElement {items i nested steps} : items[i]? = some nested → LeadsToPayload nested steps →
      LeadsToPayload (.tuple items) (.index i :: steps)

/-! ## The loops -/

theorem findInItems_eq_some {path found : String} {items : List (String × AuditValue)}
    (h : findInItems path items = some found) :
    ∃ keyText nested, (keyText, nested) ∈ items ∧
      (IsPayloadKey keyText ∧ found = keyPath path keyText ∨
        findUnsafeVectorWorkerAuditMetadataKey (keyPath path keyText) nested = some found) := by
  induction items with
  | nil =>
    rw [findInItems] at h
    cases h
  | cons item rest ih =>
    obtain ⟨keyText, nested⟩ := item
    rw [findInItems] at h
    by_cases hkey : IsPayloadKey keyText
    · rw [if_pos hkey] at h
      cases h
      exact ⟨keyText, nested, List.mem_cons_self, .inl ⟨hkey, rfl⟩⟩
    · rw [if_neg hkey] at h
      cases hnested : findUnsafeVectorWorkerAuditMetadataKey (keyPath path keyText) nested with
      | some found' =>
        rw [hnested] at h
        cases h
        exact ⟨keyText, nested, List.mem_cons_self, .inr hnested⟩
      | none =>
        rw [hnested] at h
        obtain ⟨keyText', nested', hmem, hfound⟩ := ih h
        exact ⟨keyText', nested', List.mem_cons_of_mem _ hmem, hfound⟩

/-- A loop that finds nothing has been through all items. -/
theorem findInItems_eq_none {path : String} {items : List (String × AuditValue)}
    (h : findInItems path items = none) : ∀ keyText nested, (keyText, nested) ∈ items →
      ¬ IsPayloadKey keyText ∧
        findUnsafeVectorWorkerAuditMetadataKey (keyPath path keyText) nested = none := by
  induction items with
  | nil =>
    intro keyText nested hmem
    cases hmem
  | cons item rest ih =>
    obtain ⟨keyText, nested⟩ := item
    rw [findInItems] at h
    by_cases hkey : IsPayloadKey keyText
    · rw [if_pos hkey] at h
      cases h
    · rw [if_neg hkey] at h
      cases hnested : findUnsafeVectorWorkerAuditMetadataKey (keyPath path keyText) nested with
      | some found =>
        rw [hnested] at h
        cases h
      | none =>
        rw [hnested] at h
        intro keyText' nested' hmem
        rcases List.mem_cons.mp hmem with hsame | hmem
        · cases hsame
          exact ⟨hkey, hnested⟩
        · exact ih h keyText' nested' hmem

theorem findInElements_eq_some {path found : String} {index : Nat} {items : List AuditValue}
    (h : findInElements path index items = some found) :
    ∃ i nested, items[i]? = some nested ∧
      findUnsafeVectorWorkerAuditMetadataKey (indexPath path (index + i)) nested = some found := by
  induction items generalizing index with
  | nil =>
    rw [findInElements] at h
    cases h
  | cons nested rest ih =>
    rw [findInElements] at h
    cases hnested : findUnsafeVectorWorkerAuditMetadataKey (indexPath path index) nested with
    | some found' =>
      rw [hnested] at h
      cases h
      exact ⟨0, nested, rfl, hnested⟩
    | none =>
      rw [hnested] at h
      obtain ⟨i, nested', hitem, hfound⟩ := ih h
      refine ⟨i + 1, nested', hitem, ?_⟩
      rwa [show index + (i + 1) = index + 1 + i by omega]

theorem findInElements_eq_none {path : String} {index : Nat} {items : List AuditValue}
    (h : findInElements path index items = none) : ∀ i nested, items[i]? = some nested →
      findUnsafeVectorWorkerAuditMetadataKey (indexPath path (index + i)) nested = none := by
  induction items generalizing index with
  | nil =>
    intro i nested hitem
    cases hitem
  | cons nested rest ih =>
    rw [findInElements] at h
    cases hnested : findUnsafeVectorWorkerAuditMetadataKey (indexPath path index) nested with
    | some found =>
      rw [hnested] at h
      cases h
    | none =>
      rw [hnested] at h
      intro i nested' hitem
      cases i with
      | zero =>
        cases hitem
        exact hnested
      | succ i =>
        rw [show index + (i + 1) = index + 1 + i by omega]
        exact ih h i nested' hitem

/-! ## The search -/

theorem sizeOf_item_lt {keyText : String} {nested : AuditValue} {items : List (String × AuditValue)}
    (h : (keyText, nested) ∈ items) : sizeOf nested < sizeOf items := by
  have hitem := List.sizeOf_lt_of_mem h
  rw [Prod.mk.sizeOf_spec] at hitem
  omega

/-- What is reported leads to a key of raw payload. The recursion is that of the search, on what is
nested. -/
theorem find_eq_some {path found : String} (value : AuditValue)
    (h : findUnsafeVectorWorkerAuditMetadataKey path value = some found) :
    ∃ steps, LeadsToPayload value steps ∧ found = pathText path steps := by
  cases hvalue : value with
  | dict items =>
    rw [hvalue, findUnsafeVectorWorkerAuditMetadataKey] at h
    -- the key itself, or a key further in
    obtain ⟨keyText, nested, hmem, ⟨hkey, rfl⟩ | hnested⟩ := findInItems_eq_some h
    · exact ⟨[.key keyText], .here hmem hkey, rfl⟩
    · obtain ⟨steps, hsteps, hfound⟩ := find_eq_some nested hnested
      exact ⟨.key keyText :: steps, .member hmem hsteps, hfound⟩
  | list items =>
    rw [hvalue, findUnsafeVectorWorkerAuditMetadataKey] at h
    -- the positions are counted from zero
    obtain ⟨i, nested, hitem, hnested⟩ := findInElements_eq_some h
    rw [Nat.zero_add] at hnested
    obtain ⟨steps, hsteps, hfound⟩ := find_eq_some nested hnested
    exact ⟨.index i :: steps, .listElement hitem hsteps, hfound⟩
  | tuple items =>
    rw [hvalue, findUnsafeVectorWorkerAuditMetadataKey] at h
    obtain ⟨i, nested, hitem, hnested⟩ := findInElements_eq_some h
    rw [Nat.zero_add] at hnested
    obtain ⟨steps, hsteps, hfound⟩ := find_eq_some nested hnested
    exact ⟨.index i :: steps, .tupleElement hitem hsteps, hfound⟩
  | other =>
    rw [hvalue, findUnsafeVectorWorkerAuditMetadataKey] at h
    cases h
termination_by sizeOf value
decreasing_by
  · have hitem := sizeOf_item_lt hmem
    rw [hvalue, AuditValue.dict.sizeOf_spec]
    omega
  · have hitem := List.sizeOf_lt_of_mem (List.mem_of_getElem? hitem)
    rw [hvalue, AuditValue.list.sizeOf_spec]
    omega
  · have hitem := List.sizeOf_lt_of_mem (List.mem_of_getElem? hitem)
    rw [hvalue, AuditValue.tuple.sizeOf_spec]
    omega

/-- No way to a key of raw payload is missed. The induction is over the way: the loop over what
holds its first step comes to an end only at a find. -/
theorem find_ne_none {value : AuditValue} {steps : List MetadataStep}
    (h : LeadsToPayload value steps) (path : String) :
    findUnsafeVectorWorkerAuditMetadataKey path value ≠ none := by
  induction h generalizing path with
  | here hmem hkey =>
    rw [findUnsafeVectorWorkerAuditMetadataKey]
    intro hnone
    exact (findInItems_eq_none hnone _ _ hmem).1 hkey
  | member hmem _ ih =>
    rw [findUnsafeVectorWorkerAuditMetadataKey]
    intro hnone
    exact ih _ (findInItems_eq_none hnone _ _ hmem).2
  | listElement hitem _ ih =>
    rw [findUnsafeVectorWorkerAuditMetadataKey]
    intro hnone
    exact ih _ (findInElements_eq_none hnone _ _ hitem)
  | tupleElement hitem _ ih =>
    rw [findUnsafeVectorWorkerAuditMetadataKey]
    intro hnone
    exact ih _ (findInElements_eq_none hnone _ _ hitem)

/-- **Raw payload keys.** Metadata is refused exactly if some dictionary in it, at whatever depth,
has a key of raw payload, and the path that is reported leads to such a key. -/
theorem payload_keys_refused (metadata : AuditValue) :
    ((∃ exn, assertSafeVectorWorkerAuditMetadata metadata = .error exn) ↔
      ∃ steps, LeadsToPayload metadata steps) ∧
    ∀ exn, assertSafeVectorWorkerAuditMetadata metadata = .error exn →
      ∃ steps, LeadsToPayload metadata steps ∧ exn = .valueError (.message
        ("vector worker audit metadata must not include raw payload field: " ++
          pathText "" steps)) := by
  unfold assertSafeVectorWorkerAuditMetadata
  cases hfind : findUnsafeVectorWorkerAuditMetadataKey "" metadata with
  | some found =>
    obtain ⟨steps, hsteps, rfl⟩ := find_eq_some metadata hfind
    refine ⟨⟨fun _ => ⟨steps, hsteps⟩, fun _ => ⟨_, rfl⟩⟩, fun exn hexn => ?_⟩
    cases hexn
    exact ⟨steps, hsteps, rfl⟩
  | none =>
    refine ⟨⟨?_, ?_⟩, ?_⟩
    · rintro ⟨exn, hexn⟩
      cases hexn
    · rintro ⟨steps, hsteps⟩
      exact absurd hfind (find_ne_none hsteps "")
    · intro exn hexn
      cases hexn

end Collabio
