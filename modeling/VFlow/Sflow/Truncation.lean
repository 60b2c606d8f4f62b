import VFlow.Sflow.Verdicts

/-!
# Datagrams that are cut off

`SFDecode` on a proper part of a datagram: it returns an error exactly where the verdict for the cut is one
(`truncation_detected_iff`). The fields of the header, of the samples and of the known records are read by
`binary.Read`, which notices a cut. Nothing else does. A sample that is filtered or not known, and an
unknown record, are passed over with `Seek`, which goes beyond the end; when they stand last, nothing is
read after them. The bytes of a sampled header are read by one `Read`, which is content with a single byte
and leaves the rest of the buffer zero.
-/

namespace VFlow.Sflow

open Scan BigEndian

theorem returned_error_iff (o : Outcome) :
    (∃ D e, o = .returned D (some e)) ↔ o.failure.map Failure.ending = some .error := by
  match o with
  | .returned D none => simp [Outcome.failure]
  | .returned D (some e) => simp [Outcome.failure, Failure.ending]
  | .panicked p => simp [Outcome.failure, Failure.ending]

theorem truncation_detected_iff (filter : List UInt32) (now : Int) (d : WireDatagram) (p : List UInt8)
    (hp : p <+: d.encode) (hcut : p.length < d.encode.length) :
    (∃ D e, sfDecode filter now p = .returned D (some e)) ↔ d.verdict filter p.length = some .error := by
  have hends := (judges_scanDatagram filter d).cut p.length hcut 0
  rw [← List.prefix_iff_eq_take.mp hp] at hends
  rw [returned_error_iff, failure_eq_of_ends hends]

/-- A datagram with one flow sample, whose record is the header of a UDP packet. -/
def udpDatagram : WireDatagram where
  header := agentHeader
  samples := [.flow {
    sequenceNo := 1
    sourceIDType := 0
    sourceIDIdx := 1
    samplingRate := 512
    samplePool := 1000
    drops := 0
    input := 1
    output := 2
    records := [.rawHeader 11 46 4
      [0x45, 0, 0, 28, 0, 1, 0, 0, 64, 17, 0, 0, 10, 0, 0, 1, 10, 0, 0, 2, 0, 53, 0x30, 0x39, 0, 8, 0xab, 0xcd] []] }]
  header_ok := agentHeader_ok
  samples_ok := by decide +kernel
  samples_lt := by decide

theorem truncation_detected_iff_fields : ∃ D e, sfDecode [] 0 (udpDatagram.encode.take 92) = .returned D (some e) :=
  (truncation_detected_iff [] 0 udpDatagram _ (List.take_prefix _ _) (by decide +kernel)).mpr (by decide +kernel)

/-- What is returned for the first 114 bytes of it: the destination port 12345 has become 0. -/
def completedResult : SFDatagram where
  version := 5
  ipVersion := 1
  agentSubID := 0
  sequenceNo := 1
  sysUpTime := 1000
  samplesNo := 1
  samples := [.flow {
    sequenceNo := 1
    sourceID := 0
    samplingRate := 512
    samplePool := 1000
    drops := 0
    input := 1
    output := 2
    recordsNo := 1
    records := { rawHeader := some {
      l3 := some (.ipv4 {
        version := 4
        tos := 0
        totalLen := 28
        id := 1
        flags := 0
        ttl := 64
        protocol := 17
        checksum := 0
        src := "10.0.0.1"
        dst := "10.0.0.2" })
      l4 := some (.udp { srcPort := 53, dstPort := 0 }) } } }]
  ipAddress := [192, 0, 2, 1]
  colTime := 0

/-- Six bytes are missing and nothing is noticed. -/
theorem truncation_completed :
    udpDatagram.encode.length = 120 ∧
      sfDecode [] 0 (udpDatagram.encode.take 114) = .returned (some completedResult) none := by
  decide +kernel

end VFlow.Sflow
