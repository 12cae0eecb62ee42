import ZoneSegmentation.Daemon.Decision
import ZoneSegmentation.Library.Bytes

/-!
# The wire format

A request is 13 bytes and a response is 2. Python packs and unpacks them with `struct`, in network
byte order; C++ reads the bytes of a request into a packed struct, whose fields are then numbers in
the machine's own order, and turns them with `ntohl`.

## Main definitions

* `Request`, `packRequest`, `unpackResponse`: what `is_allowed` sends, and how it reads the answer
* `FilterRequest`, `FilterRequest.ofBytes`: the packed struct over the bytes of a request
* `respond`: what `HandleClient` does between reading a request and writing the response

## Main results

* `ntohl_ofBytes_packRequest`: the addresses and the protocol that were sent arrive
* `respond_packRequest`: the response to a packed request is the decision on its own addresses
-/

namespace ZoneSegmentation

open Bytes

/-! ## The client's side -/

/-- The arguments of a call of `is_allowed` that `struct.pack` accepts. -/
structure Request where
  srcIp : BitVec 32
  dstIp : BitVec 32
  srcPort : BitVec 16
  dstPort : BitVec 16
  protocol : BitVec 8
  deriving DecidableEq

/-- `_REQUEST_SIZE` and `_RESPONSE_SIZE`. -/
def requestSize : ℕ := 13
def responseSize : ℕ := 2

/-- `struct.pack("!IIHHB", …)`. -/
def packRequest (r : Request) : List Byte :=
  encode 4 r.srcIp.toNat ++ encode 4 r.dstIp.toNat ++ encode 2 r.srcPort.toNat ++
    encode 2 r.dstPort.toNat ++ encode 1 r.protocol.toNat

/-- What `is_allowed` returns of a response: `struct.unpack("!BB", response)`, and whether the
verdict is 1. -/
def unpackResponse : List Byte → Option (Bool × BitVec 8)
  | [verdict, ruleId] => some (verdict = 1, ruleId)
  | _ => none

@[simp] theorem length_packRequest (r : Request) : (packRequest r).length = requestSize := by
  simp [packRequest, requestSize]

/-! ## The daemon's side -/

/-- `struct FilterRequest`: its fields, as the machine reads them. -/
structure FilterRequest where
  srcIp : BitVec 32
  dstIp : BitVec 32
  srcPort : BitVec 16
  dstPort : BitVec 16
  protocol : BitVec 8
  deriving DecidableEq

/-- The packed struct whose memory holds these bytes: its fields lie at offsets 0, 4, 8, 10 and
12. -/
def FilterRequest.ofBytes (o : ByteOrder) (buf : List Byte) : FilterRequest where
  srcIp := BitVec.ofNat 32 (o.load (buf.take 4))
  dstIp := BitVec.ofNat 32 (o.load ((buf.drop 4).take 4))
  srcPort := BitVec.ofNat 16 (o.load ((buf.drop 8).take 2))
  dstPort := BitVec.ofNat 16 (o.load ((buf.drop 10).take 2))
  protocol := BitVec.ofNat 8 (o.load ((buf.drop 12).take 1))

/-- `ntohl`. -/
def ntohl (o : ByteOrder) (x : BitVec 32) : BitVec 32 := BitVec.ofNat 32 (o.ntoh 4 x.toNat)

/-- What `HandleClient` does between `ReadFull` and `WriteFull`: the bytes of the response to a
request, unless a shift has no meaning. The ports are not used. -/
def respond (t : Tables) (o : ByteOrder) (buf : List Byte) : Option (List Byte) :=
  let req := FilterRequest.ofBytes o buf
  (daemonAnswer t (ntohl o req.srcIp) (ntohl o req.dstIp) req.protocol).map
    fun resp => [resp.1, resp.2]

theorem length_of_respond {t : Tables} {o : ByteOrder} {buf resp : List Byte}
    (h : respond t o buf = some resp) : resp.length = responseSize := by
  obtain ⟨r, -, rfl⟩ := Option.map_eq_some_iff.mp h
  rfl

/-! ## Agreement -/

/-- `ntohl` of the four bytes of an address in memory is the address. -/
theorem ntohl_load_encode (o : ByteOrder) (x : BitVec 32) :
    ntohl o (BitVec.ofNat 32 (o.load (encode 4 x.toNat))) = x := by
  have hload := o.ntoh_load (encode 4 x.toNat)
  have hlt := o.load_lt (encode 4 x.toNat)
  rw [length_encode] at hload hlt
  have hpow : (256 : ℕ) ^ 4 = 2 ^ 32 := by norm_num
  rw [hpow] at hlt
  rw [ntohl, BitVec.toNat_ofNat, Nat.mod_eq_of_lt hlt, hload, decode_encode_of_lt x.isLt,
    BitVec.ofNat_toNat, BitVec.setWidth_eq]

/-- The single byte of the protocol needs no conversion. -/
theorem load_encode_one (o : ByteOrder) (x : BitVec 8) :
    BitVec.ofNat 8 (o.load (encode 1 x.toNat)) = x := by
  have hdecode : decode (encode 1 x.toNat) = x.toNat := decode_encode_of_lt x.isLt
  cases o with
  | big => rw [ByteOrder.load, hdecode, BitVec.ofNat_toNat, BitVec.setWidth_eq]
  | little =>
    have hone : (encode 1 x.toNat).reverse = encode 1 x.toNat := rfl
    rw [ByteOrder.load, hone, hdecode, BitVec.ofNat_toNat, BitVec.setWidth_eq]

/-- The fields of a request lie where the struct has them. -/
theorem ofBytes_packRequest (o : ByteOrder) (r : Request) :
    FilterRequest.ofBytes o (packRequest r) =
      ⟨BitVec.ofNat 32 (o.load (encode 4 r.srcIp.toNat)),
        BitVec.ofNat 32 (o.load (encode 4 r.dstIp.toNat)),
        BitVec.ofNat 16 (o.load (encode 2 r.srcPort.toNat)),
        BitVec.ofNat 16 (o.load (encode 2 r.dstPort.toNat)),
        BitVec.ofNat 8 (o.load (encode 1 r.protocol.toNat))⟩ := rfl

/-- **The addresses and the protocol that were sent arrive**, in either byte order of the daemon's
machine. -/
theorem ntohl_ofBytes_packRequest (o : ByteOrder) (r : Request) :
    ntohl o (FilterRequest.ofBytes o (packRequest r)).srcIp = r.srcIp ∧
      ntohl o (FilterRequest.ofBytes o (packRequest r)).dstIp = r.dstIp ∧
      (FilterRequest.ofBytes o (packRequest r)).protocol = r.protocol := by
  rw [ofBytes_packRequest]
  exact ⟨ntohl_load_encode o r.srcIp, ntohl_load_encode o r.dstIp, load_encode_one o r.protocol⟩

/-- **The response to a packed request** is the decision on its own addresses and protocol. -/
theorem respond_packRequest (t : Tables) (o : ByteOrder) (r : Request) :
    respond t o (packRequest r) =
      (daemonAnswer t r.srcIp r.dstIp r.protocol).map fun resp => [resp.1, resp.2] := by
  obtain ⟨hsrc, hdst, hproto⟩ := ntohl_ofBytes_packRequest o r
  simp only [respond, hsrc, hdst, hproto]

end ZoneSegmentation
