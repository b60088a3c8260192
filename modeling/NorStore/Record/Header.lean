/-
# Headers and checksums

A header stands between the ledger and the payload of a segment. It says how long
the payload is, which format and which application wrote it, and what its bytes sum
up to. The sum starts from the length, so a payload and a longer one with zeros
behind it differ.
-/

import NorStore.Loss

namespace NorStore

/-- The part of a payload that its checksum covers. -/
inductive ChecksumSpan where
  | full
  | excludeLast
deriving DecidableEq, Repr

/-- The bytes that the checksum covers. -/
def ChecksumSpan.covered : ChecksumSpan → Bytes → Bytes
  | full, payload => payload
  | excludeLast, payload => payload.dropLast

/-- The low byte of the payload's length plus the covered bytes, modulo 256. -/
def checksum (payload : Bytes) (span : ChecksumSpan) : UInt8 :=
  (span.covered payload).foldl (· + ·) (UInt8.ofNat payload.length)

/-- What is stored in front of a payload. -/
structure Header where
  length : UInt32
  signature : UInt32
  appSignature : UInt32
  version : UInt16
  checksum : UInt16
deriving DecidableEq, Repr

namespace Header

/-- The number of bytes of a header. -/
def size : Nat := 16

/-- The word that marks the format: the letters `LPST`. -/
def formatSignature : UInt32 := Bytes.joinWord32 0x4c 0x50 0x53 0x54

/-- The version of the format. -/
def currentVersion : UInt16 := 1

/-- The header of a payload. Its length field has 32 bits. -/
def forPayload (payload : Bytes) (appSignature : UInt32) (span : ChecksumSpan) : Header where
  length := UInt32.ofNat payload.length
  signature := formatSignature
  appSignature := appSignature
  version := currentVersion
  checksum := (NorStore.checksum payload span).toUInt16

/-- The bytes of a header. -/
def encode (header : Header) : Bytes :=
  Bytes.ofWord32 header.length ++ Bytes.ofWord32 header.signature ++
    Bytes.ofWord32 header.appSignature ++ Bytes.ofWord16 header.version ++
    Bytes.ofWord16 header.checksum

/-- The header in the first sixteen bytes. -/
def decode (bytes : Bytes) : Header where
  length := bytes.word32At 0
  signature := bytes.word32At 4
  appSignature := bytes.word32At 8
  version := bytes.word16At 12
  checksum := bytes.word16At 14

/-- Whether this format, this application and a known version wrote the header. The
first of the three that fails is the reason. -/
def validate (header : Header) (appSignature : UInt32) (maxVersion : UInt16) :
    Except LossReason Unit :=
  if header.signature ≠ formatSignature then
    .error (.signatureMismatch .format formatSignature header.signature)
  else if header.appSignature ≠ appSignature then
    .error (.signatureMismatch .application appSignature header.appSignature)
  else if maxVersion < header.version then
    .error (.versionNotSupported header.version maxVersion)
  else
    .ok ()

/-- Whether the header describes a payload: its length first, then its checksum. -/
def verify (header : Header) (payload : Bytes) (span : ChecksumSpan) : Except LossReason Unit :=
  if payload.length ≠ header.length.toNat then
    .error (.corruption (.shortPayload payload.length header.length.toNat))
  else if (NorStore.checksum payload span).toUInt16 ≠ header.checksum then
    .error (.corruption (.checksumMismatch header.checksum (NorStore.checksum payload span)))
  else
    .ok ()

@[simp] theorem length_encode (header : Header) : header.encode.length = size := rfl

theorem decode_encode (header : Header) : decode header.encode = header := by
  cases header with
  | mk length signature appSignature version checksum =>
    exact congr (congr (congr (congr (congrArg mk (Bytes.joinWord32_bytes length))
      (Bytes.joinWord32_bytes signature)) (Bytes.joinWord32_bytes appSignature))
      (Bytes.joinWord16_bytes version)) (Bytes.joinWord16_bytes checksum)

theorem encode_decode {bytes : Bytes} (whole : bytes.length = size) :
    (decode bytes).encode = bytes := by
  match bytes, whole with
  | [b0, b1, b2, b3, b4, b5, b6, b7, b8, b9, b10, b11, b12, b13, b14, b15], _ =>
    show Bytes.ofWord32 (Bytes.joinWord32 b0 b1 b2 b3) ++
      Bytes.ofWord32 (Bytes.joinWord32 b4 b5 b6 b7) ++
      Bytes.ofWord32 (Bytes.joinWord32 b8 b9 b10 b11) ++
      Bytes.ofWord16 (Bytes.joinWord16 b12 b13) ++ Bytes.ofWord16 (Bytes.joinWord16 b14 b15) = _
    simp only [Bytes.ofWord32_joinWord32, Bytes.ofWord16_joinWord16]
    rfl

end Header

end NorStore
