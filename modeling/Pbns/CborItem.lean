/-
CBOR data items as trees, their deterministic encoding, and readers of them.

A map has integer keys and is written in the order its pairs stand in.  `Item.Within` says which
items a reader with limits on nesting and sizes is expected to read; `Reads` is that expectation.

* `parse_encode` — an item can be read back, whatever follows it;
* `decode_reads` — there is a reader that meets the expectation.
-/
import Pbns.CborMap
import Pbns.Utf8

namespace Cbor

open Octets

inductive Item
  | int (k : Int)
  | bytes (s : Octets)
  | text (s : Octets)
  | array (items : List Item)
  | map (pairs : List (Int × Item))
  | bool (b : Bool)
  | null

/-! ### The encoding -/

mutual

def encode : Item → Octets
  | .int k => int k
  | .bytes s => bytes s
  | .text s => text s
  | .array items => arrayHead items.length ++ encodeItems items
  | .map pairs => mapHead pairs.length ++ encodePairs pairs
  | .bool b => head majorSimple (if b then 21 else 20)
  | .null => head majorSimple 22

def encodeItems : List Item → Octets
  | [] => []
  | item :: items => encode item ++ encodeItems items

def encodePairs : List (Int × Item) → Octets
  | [] => []
  | (key, value) :: pairs => int key ++ encode value ++ encodePairs pairs

end

/-! ### Reading -/

/-- So many items in a row. -/
def parseItems (inner : Octets → Option (Item × Octets)) : ℕ → Octets → Option (List Item × Octets)
  | 0, s => some ([], s)
  | n + 1, s => do
    let (item, s) ← inner s
    let (items, s) ← parseItems inner n s
    some (item :: items, s)

/-- So many pairs in a row. -/
def parsePairs (inner : Octets → Option (Item × Octets)) :
    ℕ → Octets → Option (List (Int × Item) × Octets)
  | 0, s => some ([], s)
  | n + 1, s => do
    let (key, s) ← inner s
    let (value, s) ← inner s
    let (pairs, s) ← parsePairs inner n s
    match key with
    | .int key => some ((key, value) :: pairs, s)
    | _ => none

/-- An item of less than `levels` levels, and what follows it. -/
def parse : ℕ → Octets → Option (Item × Octets)
  | 0, _ => none
  | levels + 1, s =>
    match decodeHead s with
    | some (0, n, rest) => some (.int n, rest)
    | some (1, n, rest) => some (.int (-1 - n), rest)
    | some (2, n, rest) => if rest.length < n then none else some (.bytes (rest.take n), rest.drop n)
    | some (3, n, rest) => if rest.length < n then none else some (.text (rest.take n), rest.drop n)
    | some (4, n, rest) => (parseItems (parse levels) n rest).map fun r => (.array r.1, r.2)
    | some (5, n, rest) => (parsePairs (parse levels) n rest).map fun r => (.map r.1, r.2)
    | some (7, 20, rest) => some (.bool false, rest)
    | some (7, 21, rest) => some (.bool true, rest)
    | some (7, 22, rest) => some (.null, rest)
    | _ => none

/-- One item and nothing behind it. -/
def decode (levels : ℕ) (s : Octets) : Option Item :=
  match parse (levels + 1) s with
  | some (item, []) => some item
  | _ => none

/-! ### What a reader is expected to read -/

/-- An item of at most so many levels, whose containers are within the limits, whose keys are
64-bit integers that do not repeat and, if the reader looks at them, whose texts are UTF-8. -/
inductive Item.Within (limits : ReadLimits) (utf8 : Bool) : ℕ → Item → Prop
  | int {n : ℕ} {k : Int} (hlow : -2 ^ 63 ≤ k) (hhigh : k < 2 ^ 64) : Within limits utf8 n (.int k)
  | bytes {n : ℕ} {s : Octets} (hlength : s.length < 2 ^ 64) : Within limits utf8 n (.bytes s)
  | text {n : ℕ} {s : Octets} (hlength : s.length < 2 ^ 64) (hutf8 : utf8 = true → Utf8.WellFormed s) :
      Within limits utf8 n (.text s)
  | array {n : ℕ} {items : List Item} (hlength : items.length < 2 ^ 64)
      (hlimit : items.length ≤ limits.arrayElements)
      (hitems : ∀ item ∈ items, Within limits utf8 n item) : Within limits utf8 (n + 1) (.array items)
  | map {n : ℕ} {pairs : List (Int × Item)} (hlength : pairs.length < 2 ^ 64)
      (hlimit : pairs.length ≤ limits.mapPairs) (hnodup : (pairs.map Prod.fst).Nodup)
      (hkeys : ∀ pair ∈ pairs, -2 ^ 63 ≤ pair.1 ∧ pair.1 < 2 ^ 63)
      (hvalues : ∀ pair ∈ pairs, Within limits utf8 n pair.2) : Within limits utf8 (n + 1) (.map pairs)
  | bool {n : ℕ} {b : Bool} : Within limits utf8 n (.bool b)
  | null {n : ℕ} : Within limits utf8 n .null

/-- A reader that reads back what is encoded, as long as it is within the limits.  Of anything
else it may make what it likes. -/
def Reads (limits : ReadLimits) (utf8 : Bool) (read : Octets → Option Item) : Prop :=
  ∀ item, item.Within limits utf8 limits.nestedLevels → read (encode item) = some item

theorem parse_int {k : Int} (hlow : -2 ^ 63 ≤ k) (hhigh : k < 2 ^ 64) (n : ℕ) (s : Octets) :
    parse (n + 1) (int k ++ s) = some (.int k, s) := by
  unfold parse int
  by_cases hk : 0 ≤ k
  · rw [if_pos hk, decodeHead_head (by decide) (by omega)]
    change some (Item.int (k.toNat : Int), s) = _
    rw [Int.toNat_of_nonneg hk]
  · rw [if_neg hk, decodeHead_head (by decide) (by omega)]
    change some (Item.int (-1 - ((-1 - k).toNat : Int)), s) = _
    rw [Int.toNat_of_nonneg (by omega), show -1 - (-1 - k) = k by omega]

theorem parseItems_encode {inner : Octets → Option (Item × Octets)} {items : List Item}
    (h : ∀ item ∈ items, ∀ s, inner (encode item ++ s) = some (item, s)) (s : Octets) :
    parseItems inner items.length (encodeItems items ++ s) = some (items, s) := by
  induction items with
  | nil => rfl
  | cons item items ih =>
    rw [encodeItems, List.append_assoc, List.length_cons, parseItems,
      h item List.mem_cons_self, Option.bind_eq_bind, Option.bind_some]
    dsimp only
    rw [ih fun other hother => h other (List.mem_cons_of_mem _ hother)]
    rfl

theorem parsePairs_encode {inner : Octets → Option (Item × Octets)} {pairs : List (Int × Item)}
    (hkeys : ∀ pair ∈ pairs, ∀ s, inner (int pair.1 ++ s) = some (.int pair.1, s))
    (hvalues : ∀ pair ∈ pairs, ∀ s, inner (encode pair.2 ++ s) = some (pair.2, s)) (s : Octets) :
    parsePairs inner pairs.length (encodePairs pairs ++ s) = some (pairs, s) := by
  induction pairs with
  | nil => rfl
  | cons pair pairs ih =>
    obtain ⟨key, value⟩ := pair
    rw [encodePairs, List.append_assoc, List.append_assoc, List.length_cons, parsePairs,
      hkeys _ List.mem_cons_self, Option.bind_eq_bind, Option.bind_some]
    dsimp only
    rw [hvalues _ List.mem_cons_self, Option.bind_eq_bind, Option.bind_some]
    dsimp only
    rw [ih (fun other hother => hkeys other (List.mem_cons_of_mem _ hother))
      fun other hother => hvalues other (List.mem_cons_of_mem _ hother)]
    rfl

theorem parse_string (make : Octets → Item) (content s : Octets) :
    (if (content ++ s).length < content.length then none
      else some (make ((content ++ s).take content.length), (content ++ s).drop content.length)) =
      some (make content, s) := by
  rw [if_neg (by rw [List.length_append]; omega), List.take_left, List.drop_left]

variable {limits : ReadLimits} {utf8 : Bool} {n : ℕ}

/-- **An item can be read back**, whatever follows it. -/
theorem parse_encode {item : Item} (h : item.Within limits utf8 n) (s : Octets) :
    parse (n + 1) (encode item ++ s) = some (item, s) := by
  induction h generalizing s with
  | int hlow hhigh =>
    rw [encode]
    exact parse_int hlow hhigh _ s
  | bytes hlength =>
    rw [encode, Cbor.bytes, List.append_assoc, parse, decodeHead_head (by decide) hlength]
    exact parse_string Item.bytes _ s
  | text hlength =>
    rw [encode, Cbor.text, List.append_assoc, parse, decodeHead_head (by decide) hlength]
    exact parse_string Item.text _ s
  | @array n items hlength _ _ ih =>
    rw [encode, arrayHead, List.append_assoc, parse, decodeHead_head (by decide) hlength]
    change (parseItems (parse (n + 1)) items.length (encodeItems items ++ s)).map _ = _
    rw [parseItems_encode ih]
    rfl
  | @map n pairs hlength _ _ hkeys _ ih =>
    rw [encode, mapHead, List.append_assoc, parse, decodeHead_head (by decide) hlength]
    change (parsePairs (parse (n + 1)) pairs.length (encodePairs pairs ++ s)).map _ = _
    rw [parsePairs_encode (fun pair hpair => ?_) ih]
    · rfl
    · obtain ⟨hlow, hhigh⟩ := hkeys pair hpair
      exact fun s => parse_int hlow (by omega) n s
  | @bool n b =>
    rw [encode, parse, decodeHead_head (by decide) (by split <;> decide)]
    cases b <;> rfl
  | null =>
    rw [encode, parse, decodeHead_head (by decide) (by decide)]
    rfl

theorem decode_encode {item : Item} (h : item.Within limits utf8 n) : decode n (encode item) = some item := by
  have hparse := parse_encode h []
  rw [List.append_nil] at hparse
  rw [decode, hparse]

theorem decode_reads (limits : ReadLimits) (utf8 : Bool) :
    Reads limits utf8 (decode limits.nestedLevels) := fun _ h => decode_encode h

/-- A map is within the limits when its keys and values are. -/
theorem Item.Within.of_keys {pairs : List (Int × Item)} (keys : List Int)
    (hkeys : pairs.map Prod.fst = keys) (hnodup : keys.Nodup)
    (hrange : ∀ key ∈ keys, -2 ^ 63 ≤ key ∧ key < 2 ^ 63) (hlength : keys.length < 2 ^ 64)
    (hlimit : keys.length ≤ limits.mapPairs)
    (hvalues : ∀ value ∈ pairs.map Prod.snd, value.Within limits utf8 n) :
    (Item.map pairs).Within limits utf8 (n + 1) := by
  have hcount : pairs.length = keys.length := by rw [← hkeys, List.length_map]
  refine .map (by rw [hcount]; exact hlength) (by rw [hcount]; exact hlimit) (by rw [hkeys]; exact hnodup)
    (fun pair hpair => ?_) fun pair hpair => hvalues _ (List.mem_map_of_mem hpair)
  exact hrange _ (hkeys ▸ List.mem_map_of_mem hpair)

theorem Item.Within.nat {k : ℕ} (h : k < 2 ^ 64) :
    (Item.int k).Within limits utf8 n := .int (by omega) (by exact_mod_cast h)

/-! ### Entries of a map -/

/-- The value of the only entry with this label. -/
def Item.entry (label : Int) : Item → Option Item
  | .map pairs =>
    match pairs.filter fun pair => pair.1 = label with
    | [(_, value)] => some value
    | _ => none
  | _ => none

def Item.uint64 : Item → Option ℕ
  | .int k => if 0 ≤ k ∧ k < 2 ^ 64 then some k.toNat else none
  | _ => none

def Item.byteString : Item → Option Octets
  | .bytes s => some s
  | _ => none

def Item.textString : Item → Option Octets
  | .text s => some s
  | _ => none

theorem Item.uint64_int (h : n < 2 ^ 64) : (Item.int n).uint64 = some n := by
  rw [uint64, if_pos ⟨Int.natCast_nonneg n, by exact_mod_cast h⟩, Int.toNat_natCast]

/-! ### Byte slices that may be nil -/

/-- A byte slice; `none` is the nil slice, which is written as null. -/
abbrev NilBytes := Option Octets

def NilBytes.item : NilBytes → Item
  | some s => .bytes s
  | none => .null

def NilBytes.length (slice : NilBytes) : ℕ := (slice.getD []).length

/-- A library that fills records reads back every record whose item is within its limits. -/
def ReadsRecords {α : Type} (limits : ReadLimits) (item : α → Item) (unmarshal : Octets → Option α) :
    Prop :=
  ∀ a, (item a).Within limits true limits.nestedLevels → unmarshal (encode (item a)) = some a

/-- A slice from its item. -/
def NilBytes.ofItem : Item → NilBytes
  | .bytes s => some s
  | _ => none

@[simp] theorem NilBytes.ofItem_item (slice : NilBytes) : NilBytes.ofItem slice.item = slice := by
  cases slice <;> rfl

/-- There is such a library when records can be had from their items. -/
theorem decode_readsRecords {α : Type} (limits : ReadLimits) {item : α → Item} {ofItem : Item → Option α}
    (h : ∀ a, ofItem (item a) = some a) :
    ReadsRecords limits item fun s => (decode limits.nestedLevels s).bind ofItem := by
  intro a ha
  change (decode limits.nestedLevels (encode (item a))).bind ofItem = some a
  rw [decode_encode ha, Option.bind_some, h]

/-! ### Lengths -/

theorem head_length_le (major argument : ℕ) : (head major argument).length ≤ 9 := by
  unfold head
  split_ifs <;> simp [writeU32Be, writeU64Be]

theorem int_length_le (k : Int) : (int k).length ≤ 9 := by
  unfold int
  split_ifs <;> exact head_length_le _ _

mutual

/-- The room an item takes up at most: nine octets for each head, and the strings. -/
def Item.room : Item → ℕ
  | .int _ => 9
  | .bytes s => 9 + s.length
  | .text s => 9 + s.length
  | .array items => 9 + roomItems items
  | .map pairs => 9 + roomPairs pairs
  | .bool _ => 9
  | .null => 9

def roomItems : List Item → ℕ
  | [] => 0
  | item :: items => item.room + roomItems items

def roomPairs : List (Int × Item) → ℕ
  | [] => 0
  | (_, value) :: pairs => 9 + value.room + roomPairs pairs

end

mutual

theorem encode_length_le : ∀ item : Item, (encode item).length ≤ item.room
  | .int k => by
    rw [encode, Item.room]
    exact int_length_le k
  | .bytes s => by
    rw [encode, bytes, Item.room, List.length_append]
    exact Nat.add_le_add_right (head_length_le _ _) _
  | .text s => by
    rw [encode, text, Item.room, List.length_append]
    exact Nat.add_le_add_right (head_length_le _ _) _
  | .array items => by
    rw [encode, Item.room, List.length_append]
    exact Nat.add_le_add (head_length_le _ _) (encodeItems_length_le items)
  | .map pairs => by
    rw [encode, Item.room, List.length_append]
    exact Nat.add_le_add (head_length_le _ _) (encodePairs_length_le pairs)
  | .bool b => by
    rw [encode, Item.room]
    exact head_length_le _ _
  | .null => by
    rw [encode, Item.room]
    exact head_length_le _ _

theorem encodeItems_length_le : ∀ items : List Item, (encodeItems items).length ≤ roomItems items
  | [] => by
    rw [encodeItems, roomItems]
    exact Nat.le_refl _
  | item :: items => by
    rw [encodeItems, roomItems, List.length_append]
    exact Nat.add_le_add (encode_length_le item) (encodeItems_length_le items)

theorem encodePairs_length_le : ∀ pairs : List (Int × Item), (encodePairs pairs).length ≤ roomPairs pairs
  | [] => by
    rw [encodePairs, roomPairs]
    exact Nat.le_refl _
  | (key, value) :: pairs => by
    rw [encodePairs, roomPairs, List.length_append, List.length_append]
    exact Nat.add_le_add (Nat.add_le_add (int_length_le key) (encode_length_le value))
      (encodePairs_length_le pairs)

end

/-- An item takes up some room. -/
theorem encode_ne_nil (item : Item) : encode item ≠ [] := by
  have hhead : ∀ major argument, head major argument ≠ [] := by
    intro major argument
    unfold head
    split_ifs <;> simp
  have happend : ∀ {s t : Octets}, s ≠ [] → s ++ t ≠ [] := fun h happend =>
    h (List.append_eq_nil_iff.mp happend).1
  cases item with
  | int k =>
    rw [encode, int]
    split_ifs <;> exact hhead _ _
  | bytes s =>
    rw [encode]
    exact happend (hhead _ _)
  | text s =>
    rw [encode]
    exact happend (hhead _ _)
  | array items =>
    rw [encode]
    exact happend (hhead _ _)
  | map pairs =>
    rw [encode]
    exact happend (hhead _ _)
  | bool b =>
    rw [encode]
    exact hhead _ _
  | null =>
    rw [encode]
    exact hhead _ _

end Cbor
