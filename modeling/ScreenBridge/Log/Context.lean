import ScreenBridge.Log.Notice

/-!
# Bound keys

Keys are bound for a block of work: every event inside it carries them. Blocks nest; at the end of
one the keys that it bound get the values back that they had before it, or go away if they had
none.
-/

namespace ScreenBridge.Log

/-- The bound keys, and for each open block, the innermost first, what its keys were before. -/
structure Context where
  bound : Keys
  blocks : List (List (String × Option Json))
  deriving DecidableEq, Repr

namespace Context

def empty : Context := ⟨[], []⟩

/-- A block entered that binds some keys. -/
def enter (c : Context) (keys : Keys) : Context where
  bound := c.bound.update keys
  blocks := (keys.map fun kv => (kv.1, c.bound.get? kv.1)) :: c.blocks

/-- The keys of a block given back what they had before. -/
def restore (bound : Keys) : List (String × Option Json) → Keys
  | [] => bound
  | (key, some value) :: rest => restore (bound.set key value) rest
  | (key, none) :: rest => restore (bound.erase key) rest

/-- The innermost block left; nothing happens outside of all blocks. -/
def leave (c : Context) : Context :=
  match c.blocks with
  | [] => c
  | saved :: rest => ⟨restore c.bound saved, rest⟩

end Context

end ScreenBridge.Log
