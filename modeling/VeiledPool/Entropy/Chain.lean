/-! # Hash chains

A chain turns whatever its owner feeds it into draws. Its state is a digest. The
first state hashes a fixed domain and the seed; absorbing hashes the state, a tag
and the data; drawing hashes the state and another tag, and the new state gives
the draw. Since no tag starts another and every state has the same length, the
kind of a step can be read off what it hashed.
-/

namespace VeiledPool

/-- Thirty-two bytes that stand for a longer byte list. -/
structure Digest where
  bytes : List UInt8
  size : bytes.length = 32
  deriving DecidableEq, Repr

/-- A function from byte lists to digests. -/
abbrev HashFunction := List UInt8 → Digest

/-- Bytes of a text. -/
def bytesOf (text : String) : List UInt8 :=
  text.toUTF8.data.toList

namespace Digest

/-- The first eight bytes as a number, most significant first. -/
def draw (digest : Digest) : UInt64 :=
  (digest.bytes.take 8).foldl (fun value byte => value * 256 + byte.toUInt64) 0

end Digest

namespace Chain

/-- What every first hash begins with. -/
def domain : List UInt8 := bytesOf "AnonSwapEntropy"

/-- Tag of a step that absorbs data. -/
def absorbTag : List UInt8 := bytesOf "absorb"

/-- Tag of a step that draws. -/
def drawTag : List UInt8 := bytesOf "draw"

def start (hash : HashFunction) (seed : List UInt8) : Digest :=
  hash (domain ++ seed)

def absorb (hash : HashFunction) (state : Digest) (data : List UInt8) : Digest :=
  hash (state.bytes ++ absorbTag ++ data)

def advance (hash : HashFunction) (state : Digest) : Digest :=
  hash (state.bytes ++ drawTag)

end Chain

end VeiledPool
