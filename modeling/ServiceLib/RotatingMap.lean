import ServiceLib.Generations

set_option autoImplicit false

/-!
# The rotating map

Every operation on a key is one critical section of the key's shard. `Rotate` takes the
shards one after another, so that other operations may come between two of them. What
the factory of `getOrCreate` does outside the map is a change of a world `W`.
-/
namespace ServiceLib.RotatingMap
open Generations

def kRotatingMapShrinkFactor : ℕ := 4

def kRotatingMapShardCount : ℕ := 64

def kRotatingMapMinCapacity : ℕ := 1000

variable {K V W E:Type}

structure Shard (K V:Type) where
 stored : Store K V := {}
 highWaterMark : ℕ := 0

structure State (K V:Type) where
 minCapacity : ℕ := kRotatingMapMinCapacity
 shards : Fin kRotatingMapShardCount → Shard K V := fun _=>{}

def shardFor (hash:K → ℕ) (key:K) : Fin kRotatingMapShardCount :=
 ⟨hash key % kRotatingMapShardCount,Nat.mod_lt _ (by decide)⟩

def State.setStored (s:State K V) (i:Fin kRotatingMapShardCount) (stored:Store K V) : State K V :=
 { s with shards := Function.update s.shards i { s.shards i with stored := stored } }

structure DuplicateKeyError where
 what : String := "duplicate key"

variable [DecidableEq K]

def State.set (hash:K → ℕ) (s:State K V) (key:K) (value:V) :
  Except DuplicateKeyError Unit × State K V :=
 let shard:=s.shards (shardFor hash key)
 if key ∈ shard.stored.current ∨ key ∈ shard.stored.previous then (.error {},s)
 else (.ok (),s.setStored (shardFor hash key) (shard.stored.emplace key value))

def State.getOrCreate (hash:K → ℕ) (s:State K V) (w:W) (key:K)
  (factory:W → Except E V × W) : Except E (V × Bool) × State K V × W :=
 let shard:=s.shards (shardFor hash key)
 match shard.stored.current.lookup key with
 | some value => (.ok (value,true),s,w)
 | none =>
  match shard.stored.previous.lookup key with
  | some value => (.ok (value,true),s,w)
  | none =>
   match factory w with
   | (.error error,w') => (.error error,s,w')
   | (.ok value,w') =>
    (.ok (value,false),s.setStored (shardFor hash key) (shard.stored.emplace key value),w')

def State.get (hash:K → ℕ) (s:State K V) (key:K) : Option V :=
 let shard:=s.shards (shardFor hash key)
 match shard.stored.current.lookup key with
 | some value => some value
 | none => shard.stored.previous.lookup key

def State.pop (hash:K → ℕ) (s:State K V) (key:K) : Option V × State K V :=
 let shard:=s.shards (shardFor hash key)
 match shard.stored.current.lookup key with
 | some value =>
  (some value,s.setStored (shardFor hash key)
   { shard.stored with current := shard.stored.current.erase key })
 | none =>
  match shard.stored.previous.lookup key with
  | some value =>
   (some value,s.setStored (shardFor hash key)
    { shard.stored with previous := shard.stored.previous.erase key })
  | none => (none,s)

def State.size (s:State K V) : ℕ :=
 (List.finRange kRotatingMapShardCount).foldl (fun result i=>result + (s.shards i).stored.total) 0

def Shard.rotate (minCapacity:ℕ) (shard:Shard K V) : Shard K V :=
 let total:=shard.stored.total
 let shouldRotate:=shard.highWaterMark = 0 ∨
  total < (shard.highWaterMark + kRotatingMapShrinkFactor - 1) / kRotatingMapShrinkFactor
 let highWaterMark:=max shard.highWaterMark total
 if highWaterMark < minCapacity ∨ ¬ shouldRotate then { shard with highWaterMark := highWaterMark }
 else
  let combined:=absorb (absorb ∅ shard.stored.current.entries) shard.stored.previous.entries
  { stored := ⟨∅,combined⟩,highWaterMark := total }

def State.rotateShard (s:State K V) (i:Fin kRotatingMapShardCount) : State K V :=
 { s with shards := Function.update s.shards i ((s.shards i).rotate s.minCapacity) }

def State.rotate (s:State K V) : State K V :=
 (List.finRange kRotatingMapShardCount).foldl State.rotateShard s

inductive Op (K V W E:Type)
 | set (key:K) (value:V)
 | getOrCreate (key:K) (factory:W → Except E V × W)
 | get (key:K)
 | pop (key:K)
 | size
 | rotateShard (i:Fin kRotatingMapShardCount)
 | rotate

inductive Answer (V E:Type)
 | set (result:Except DuplicateKeyError Unit)
 | getOrCreate (result:Except E (V × Bool))
 | value (result:Option V)
 | size (n:ℕ)
 | done

def apply (hash:K → ℕ) : State K V × W → Op K V W E → Answer V E × (State K V × W)
 | (s,w),.set key value =>
  let (result,s'):=s.set hash key value
  (.set result,(s',w))
 | (s,w),.getOrCreate key factory =>
  let (result,s',w'):=s.getOrCreate hash w key factory
  (.getOrCreate result,(s',w'))
 | (s,w),.get key => (.value (s.get hash key),(s,w))
 | (s,w),.pop key =>
  let (result,s'):=s.pop hash key
  (.value result,(s',w))
 | (s,w),.size => (.size s.size,(s,w))
 | (s,w),.rotateShard i => (.done,(s.rotateShard i,w))
 | (s,w),.rotate => (.done,(s.rotate,w))

end ServiceLib.RotatingMap
