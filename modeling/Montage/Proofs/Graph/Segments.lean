import Mathlib.Data.List.Forall2
import Mathlib.Data.List.Nodup
import Montage.Proofs.Work.Values
import Montage.Render.Composition

namespace Montage

/-!
# Segments and their inputs

Every segment with a file gets a chain, in the order of the segments, and its
chain reads the input that holds its address. An address is one input, however
many segments have it.
-/

namespace InputTable

/-- Each address stands once, and its input has the file of its asset. -/
structure Sound
    (assets : List (String × String))
    (table : InputTable) :
    Prop where
  once : table.addresses.Nodup
  files :
    List.Forall₂
      (fun address input => getField? address assets = some input.path)
      table.addresses table.inputs

/-- A table keeps its addresses in their places, and gets others. -/
structure Grows
    (before : InputTable)
    (added : List String)
    (after : InputTable) :
    Prop where
  stays : before.addresses <+: after.addresses
  mem_iff :
    ∀ address,
      address ∈ after.addresses ↔
        address ∈ before.addresses ∨ address ∈ added

variable {assets : List (String × String)} {table middle after : InputTable}

theorem empty_sound : Sound assets {} where
  once := List.nodup_nil
  files := .nil

namespace Grows

variable {added further : List String}

theorem refl : Grows table [] table where
  stays := List.prefix_rfl
  mem_iff := by simp

theorem trans
    (first : Grows table added middle)
    (second : Grows middle further after) :
    Grows table (added ++ further) after where
  stays := first.stays.trans second.stays
  mem_iff := by
    intro address
    rw [second.mem_iff, first.mem_iff, List.mem_append, or_assoc]

/-- An address keeps its index. -/
theorem getElem?
    (grows : Grows table added after)
    {index : Nat}
    {address : String}
    (found : table.addresses[index]? = some address) :
    after.addresses[index]? = some address := by
  obtain ⟨others, shape⟩ := grows.stays
  rw [← shape]
  have inside := (List.getElem?_eq_some_iff.mp found).1
  rwa [List.getElem?_append_left inside]

end Grows

/-- An index for an address, and the table that has it. -/
structure Indexes
    (assets : List (String × String))
    (table : InputTable)
    (address : String)
    (found : Nat × InputTable) :
    Prop where
  sound : found.2.Sound assets
  grows : table.Grows [address] found.2
  isIndex : found.2.addresses[found.1]? = some address

/-- The index of an address is found, or made at the end. -/
theorem indexFor_yields
    (sound : table.Sound assets)
    (address : String)
    (kind : MediaKind) :
    Outcome.Yields (Indexes assets table address)
      (table.indexFor assets address kind) := by
  unfold indexFor
  split
  · rename_i index isIndex
    obtain ⟨inside, isAddress, _⟩ := List.idxOf?_eq_some_iff.mp isIndex
    have member : address ∈ table.addresses := by
      rw [← isAddress]
      exact List.getElem_mem inside
    refine .ok ⟨sound, ⟨List.prefix_rfl, ?_⟩, ?_⟩
    · intro other
      rw [List.mem_singleton]
      constructor
      · exact Or.inl
      · rintro (isOld | isSame)
        · exact isOld
        · exact isSame ▸ member
    · exact List.getElem?_eq_some_iff.mpr ⟨inside, isAddress⟩
  · rename_i isNew
    rw [List.idxOf?_eq_none_iff] at isNew
    split
    · exact .error
    · rename_i path isFile
      refine .ok ⟨⟨?_, ?_⟩, ⟨List.prefix_append _ _, ?_⟩, ?_⟩
      · rw [← List.concat_eq_append, List.nodup_concat]
        exact ⟨isNew, sound.once⟩
      · exact List.rel_append sound.files (.cons isFile .nil)
      · intro other
        rw [List.mem_append]
      · simp

/-- An address whose asset is there gets an index. -/
theorem indexFor_succeeds
    {address path : String}
    (isFile : getField? address assets = some path)
    (table : InputTable)
    (kind : MediaKind) :
    (table.indexFor assets address kind).Succeeds fun _ => True := by
  unfold indexFor
  split
  · exact .ok trivial
  · rw [isFile]
    exact .ok trivial

end InputTable

/-- The addresses of segments. -/
def addressesOf (entries : List TimelineEntry) : List String :=
  entries.map TimelineEntry.address

/-- Chains for segments in their order, with numbers from one on; each is made
from its number, the index of its address and its segment. -/
inductive ChainsFor
    (make : Nat → Nat → TimelineEntry → Chain → Prop)
    (addresses : List String) :
    Nat → List TimelineEntry → List Chain → Prop
  | nil (number : Nat) :
      ChainsFor make addresses number [] []
  | cons
      {number index : Nat}
      {entry : TimelineEntry}
      {entries : List TimelineEntry}
      {chain : Chain}
      {chains : List Chain}
      (isIndex : addresses[index]? = some entry.address)
      (made : make number index entry chain)
      (rest : ChainsFor make addresses (number + 1) entries chains) :
      ChainsFor make addresses number (entry :: entries) (chain :: chains)

/-- A chain cuts out the part of a segment. -/
def IsTrim (number index : Nat) (entry : TimelineEntry) (chain : Chain) : Prop :=
  chain = trimChain number index entry

/-- A chain delays the sound of a segment by its start. -/
def IsDelay
    (number index : Nat)
    (entry : TimelineEntry)
    (chain : Chain) :
    Prop :=
  ∃ delay,
    delayOf entry = .ok delay ∧ chain = delayChain number index delay

namespace ChainsFor

variable {make : Nat → Nat → TimelineEntry → Chain → Prop}
  {addresses : List String} {number : Nat} {entries : List TimelineEntry}
  {chains : List Chain}

/-- There are chains if there are segments. -/
theorem ne_nil_iff
    (made : ChainsFor make addresses number entries chains) :
    chains ≠ [] ↔ entries ≠ [] := by
  cases made with
  | nil number => simp
  | cons isIndex made rest => simp

/-- Indices stay as the table grows. -/
theorem grows
    {added : List String}
    {before after : InputTable}
    (made : ChainsFor make before.addresses number entries chains)
    (grows : before.Grows added after) :
    ChainsFor make after.addresses number entries chains := by
  induction made with
  | nil number => exact .nil number
  | cons isIndex made rest inductionHypothesis =>
      exact .cons (grows.getElem? isIndex) made inductionHypothesis

end ChainsFor

section Making

variable {assets : List (String × String)} {table : InputTable}
  {number : Nat} {entries : List TimelineEntry}
  {made : List Chain × InputTable}

/-- What chains for segments make of a table. -/
structure Drawn
    (make : Nat → Nat → TimelineEntry → Chain → Prop)
    (assets : List (String × String))
    (table : InputTable)
    (number : Nat)
    (entries : List TimelineEntry)
    (made : List Chain × InputTable) :
    Prop where
  sound : made.2.Sound assets
  grows : table.Grows (addressesOf entries) made.2
  chains : ChainsFor make made.2.addresses number entries made.1

theorem Drawn.cons
    {make : Nat → Nat → TimelineEntry → Chain → Prop}
    {entry : TimelineEntry}
    {found : Nat × InputTable}
    {chain : Chain}
    (indexes : table.Indexes assets entry.address found)
    (isMade : make number found.1 entry chain)
    (others : Drawn make assets found.2 (number + 1) entries made) :
    Drawn make assets table number (entry :: entries)
      (chain :: made.1, made.2) where
  sound := others.sound
  grows := indexes.grows.trans others.grows
  chains := .cons (others.grows.getElem? indexes.isIndex) isMade others.chains

theorem trimChains_yields
    (sound : table.Sound assets)
    (number : Nat)
    (entries : List TimelineEntry) :
    Outcome.Yields (Drawn IsTrim assets table number entries)
      (trimChains assets number entries table) := by
  induction entries generalizing number table with
  | nil => exact .ok ⟨sound, .refl, .nil number⟩
  | cons entry entries inductionHypothesis =>
      unfold trimChains
      refine (InputTable.indexFor_yields sound _ _).bind ?_
      intro found indexes
      refine (inductionHypothesis indexes.sound (number + 1)).bind ?_
      intro others drawn
      exact .ok (.cons indexes rfl drawn)

theorem delayChains_yields
    (sound : table.Sound assets)
    (number : Nat)
    (entries : List TimelineEntry) :
    Outcome.Yields (Drawn IsDelay assets table number entries)
      (delayChains assets number entries table) := by
  induction entries generalizing number table with
  | nil => exact .ok ⟨sound, .refl, .nil number⟩
  | cons entry entries inductionHypothesis =>
      unfold delayChains
      refine (InputTable.indexFor_yields sound _ _).bind ?_
      intro found indexes
      refine Outcome.Yields.self.bind ?_
      intro delay isDelay
      refine (inductionHypothesis indexes.sound (number + 1)).bind ?_
      intro others drawn
      exact .ok (.cons indexes ⟨delay, isDelay, rfl⟩ drawn)

/-- Segments whose assets are there have chains. -/
theorem trimChains_succeeds
    (covered :
      ∀ entry ∈ entries, ∃ path, getField? entry.address assets = some path)
    (number : Nat)
    (table : InputTable) :
    (trimChains assets number entries table).Succeeds fun _ => True := by
  induction entries generalizing number table with
  | nil => exact .ok trivial
  | cons entry entries inductionHypothesis =>
      rw [List.forall_mem_cons] at covered
      obtain ⟨path, isFile⟩ := covered.1
      unfold trimChains
      refine (InputTable.indexFor_succeeds isFile table _).bind ?_
      intro found _
      refine (inductionHypothesis covered.2 (number + 1) found.2).bind ?_
      exact fun others _ => .ok trivial

/-- Sounds whose assets are there have chains exactly if the delays of all can
be computed. -/
theorem delayChains_isOk_iff
    (covered :
      ∀ entry ∈ entries, ∃ path, getField? entry.address assets = some path)
    (number : Nat)
    (table : InputTable) :
    (∃ made, delayChains assets number entries table = .ok made) ↔
      ∀ entry ∈ entries, ∃ delay, delayOf entry = .ok delay := by
  induction entries generalizing number table with
  | nil => exact iff_of_true ⟨_, rfl⟩ (by simp)
  | cons entry entries inductionHypothesis =>
      rw [List.forall_mem_cons] at covered ⊢
      obtain ⟨path, isFile⟩ := covered.1
      obtain ⟨found, isFound, _⟩ :=
        InputTable.indexFor_succeeds isFile table .audio
      rw [← inductionHypothesis covered.2 (number + 1) found.2, delayChains,
        isFound]
      change (∃ made, (delayOf entry >>= fun delay => _) = .ok made) ↔ _
      rw [Outcome.bind_eq_ok_iff]
      simp only [Outcome.bind_pure_eq_ok_iff, exists_and_right]

end Making

end Montage
