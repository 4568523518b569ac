import Stomp.Assoc
import Stomp.Header.Value

/-!
# Header tables

The headers of a frame in order, each name once. Setting a header keeps its place; adding headers
leaves those alone that are already there, so the first of several values for a name counts.
-/

namespace Stomp

structure Headers where
  entries : List (String × HeaderValue) := []
  nodup_names : (Assoc.names entries).Nodup := by decide
deriving DecidableEq

namespace Headers

def empty : Headers := {}

instance : Inhabited Headers := ⟨empty⟩

def names (hs : Headers) : List String := Assoc.names hs.entries

def get? (hs : Headers) (name : String) : Option HeaderValue := Assoc.get? hs.entries name

def insert (hs : Headers) (name : String) (v : HeaderValue) : Headers :=
  ⟨Assoc.insert hs.entries name v, Assoc.nodup_names_insert hs.nodup_names name v⟩

def erase (hs : Headers) (name : String) : Headers :=
  ⟨Assoc.erase hs.entries name, Assoc.nodup_names_erase hs.nodup_names name⟩

/-- A value that is absent or empty removes the header. -/
def set (hs : Headers) (name : String) (g : Given) : Headers :=
  match g.stored? with
  | some v => hs.insert name v
  | none => hs.erase name

def add (hs : Headers) (name : String) (g : Given) : Headers :=
  if name ∈ hs.names then hs else hs.set name g

def addAll (hs : Headers) (pairs : List (String × Given)) : Headers :=
  pairs.foldl (fun hs p => hs.add p.1 p.2) hs

def ofList (pairs : List (String × Given)) : Headers := empty.addAll pairs

theorem get?_insert (hs : Headers) (name key : String) (v : HeaderValue) :
    (hs.insert name v).get? key = if name = key then some v else hs.get? key :=
  Assoc.get?_insert hs.entries name key v

theorem get?_erase (hs : Headers) (name key : String) :
    (hs.erase name).get? key = if name = key then none else hs.get? key :=
  Assoc.get?_erase hs.entries name key

theorem mem_names_iff (hs : Headers) (key : String) :
    key ∈ hs.names ↔ (hs.get? key).isSome :=
  Assoc.mem_names_iff hs.entries key

/-- After a header is set, its value is what is stored for the given one. -/
theorem get?_set (hs : Headers) (name key : String) (g : Given) :
    (hs.set name g).get? key = if name = key then g.stored? else hs.get? key := by
  unfold set
  split
  · rename_i v hv
    rw [get?_insert, hv]
  · rename_i hv
    rw [get?_erase, hv]

/-- Adding a header keeps the value that is there. -/
theorem get?_add (hs : Headers) (name key : String) (g : Given) :
    (hs.add name g).get? key =
      if name = key then (hs.get? key).or g.stored? else hs.get? key := by
  unfold add
  by_cases hm : name ∈ hs.names
  · rw [if_pos hm]
    rw [mem_names_iff, Option.isSome_iff_exists] at hm
    obtain ⟨v, hv⟩ := hm
    split
    · rename_i hk
      subst hk
      rw [hv, Option.some_or]
    · rfl
  · rw [if_neg hm, get?_set]
    rw [mem_names_iff, Option.not_isSome_iff_eq_none] at hm
    split
    · rename_i hk
      subst hk
      rw [hm, Option.none_or]
    · rfl

/-- Equality regardless of order. -/
def same (hs ks : Headers) : Bool :=
  hs.entries.length == ks.entries.length &&
    hs.entries.all fun e => decide ((ks.get? e.1).map HeaderValue.norm = some e.2.norm)

def shown (hs : Headers) : String :=
  "\x7b" ++ ", ".intercalate (hs.entries.map fun e => Quoted.text e.1 ++ ": " ++ e.2.quoted) ++
    "\x7d"

end Headers

end Stomp
