/-!
# Accesses inside a region of memory

An access of `width` bytes at `offset` from `start` lies inside the region that ends at `stop`
when the byte behind it is not past `stop`. Addresses are 64-bit words, so the sum may leave the
address space. A reader in user space checks for that; a packet program compares the wrapped sum.

## Main definitions

* `Span.add?`: the sum of two addresses, if it is an address itself
* `Span.fits`: the access is inside the region, and a sum past the last address is outside
* `Span.packetFits`: the same comparison with the wrapped sum
-/

namespace SourceTally.Span

/-- The sum of two addresses, if it does not pass the last one. -/
def add? (a b : UInt64) : Option UInt64 :=
  if a + b < a then none else some (a + b)

/-- Whether `width` bytes at `offset` lie inside the region from `start` up to `stop`. -/
def fits (start stop offset width : UInt64) : Bool :=
  match (add? start offset).bind (add? · width) with
  | some last => last ≤ stop
  | none => false

/-- The comparison a packet program makes: the wrapped sum against the end of the packet. -/
def packetFits (start stop offset width : UInt64) : Bool :=
  start + offset + width ≤ stop

end SourceTally.Span
