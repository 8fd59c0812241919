import Transcript.Gateway

namespace Transcript

/-- The batches that a gateway kept, each with the identity it came under, and how often the
gateway was closed. -/
structure Memory where
  kept : List (List Message × Identity) := []
  closings : Nat := 0

namespace Memory

def keep (memory : Memory) (batch : List Message) (identity : Identity) : Memory :=
  { memory with kept := memory.kept ++ [(batch, identity)] }

def close (memory : Memory) : Memory := { memory with closings := memory.closings + 1 }

end Memory

namespace Gateway

/-- A gateway that keeps every batch. With a complaint it fails with it each time, after it
has kept the batch. -/
def keeping (complaint : Option String) : Gateway Memory where
  enabled := true
  append batch identity office :=
    (complaint, { office with store := office.store.keep batch identity })

end Gateway

end Transcript
