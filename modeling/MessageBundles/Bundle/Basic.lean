import MessageBundles.Dict

/-
  Bundles — the messages of one bundle, by key

  A table that keeps no order hands out the entries of a bundle in any, which may be another one in
  every run: `Enumerates` says what such a list has in common with the entries.

  Correspondence:
    `MessageBundle`                                ↔ `Bundle`
    `MessageBundle::get`, `get_or_key`, `contains` ↔ `find?`, `findOrKey`, `contains`
    `MessageBundle::iter`, its serialised form     ↔ any `l` with `Enumerates l b`
-/

namespace MessageBundles

/-- A bundle holds one message per key. -/
structure Bundle where
  messages : Dict String
  deriving DecidableEq, Inhabited

namespace Bundle

/-- The bundle of a list of entries; of several messages for one key the last one counts. -/
def ofEntries (l : List (String × String)) : Bundle := ⟨Dict.ofList l⟩

/-- The keys and messages, in increasing order of the keys. -/
def entries (b : Bundle) : List (String × String) := b.messages.entries

def find? (b : Bundle) (key : String) : Option String := b.messages.find? key

/-- The message at a key, and the key itself where there is none. -/
def findOrKey (b : Bundle) (key : String) : String := (b.find? key).getD key

def contains (b : Bundle) (key : String) : Bool := b.messages.contains key

/-- The keys, in increasing order. -/
def keys (b : Bundle) : List String := b.messages.keys

def size (b : Bundle) : Nat := b.messages.size

def isEmpty (b : Bundle) : Bool := b.messages.isEmpty

/-- A bundle is determined by its look-ups. -/
theorem ext_find? {a b : Bundle} (h : ∀ k, a.find? k = b.find? k) : a = b := by
  cases a
  cases b
  exact congrArg Bundle.mk (Dict.ext_find? h)

/-! ## Enumerations -/

/-- Whether a list holds the entries of a bundle, each of them once, in whatever order. -/
structure Enumerates (l : List (String × String)) (b : Bundle) : Prop where
  once : l.Nodup
  mem_iff : ∀ key message, (key, message) ∈ l ↔ b.find? key = some message

theorem mem_entries_iff {b : Bundle} {key message : String} :
    (key, message) ∈ b.entries ↔ b.find? key = some message :=
  (Dict.findEntry_eq_some_iff b.messages.pairwise_ne).symm

theorem nodup_entries (b : Bundle) : b.entries.Nodup :=
  b.messages.pairwise_ne.imp fun hne heq => hne (congrArg Prod.fst heq)

theorem enumerates_entries (b : Bundle) : Enumerates b.entries b :=
  ⟨b.nodup_entries, fun _ _ => mem_entries_iff⟩

/-- To enumerate a bundle is to reorder its entries. -/
theorem enumerates_iff_perm {l : List (String × String)} {b : Bundle} :
    Enumerates l b ↔ l.Perm b.entries := by
  constructor
  · intro h
    refine (List.perm_ext_iff_of_nodup h.once b.nodup_entries).mpr ?_
    rintro ⟨key, message⟩
    rw [h.mem_iff, mem_entries_iff]
  · intro h
    refine ⟨h.nodup_iff.mpr b.nodup_entries, fun key message => ?_⟩
    rw [h.mem_iff, mem_entries_iff]

end Bundle

end MessageBundles
