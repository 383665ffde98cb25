import GhostBlade.Bridge.Language
import GhostBlade.Protocol.BodyDamage

/-!
Damage behind the header of a frame at the four ends of the bridge. All of them
decide alike, by one division, and two flipped bits or a burst no wider than the
trailer is refused by all of them, wherever in payload and trailer it falls.
-/

namespace GhostBlade.Bridge

open GhostBlade.Library GhostBlade.Library.Crc GhostBlade.Protocol GhostBlade.Host
open GhostBlade.Firmware

/-- On a frame with a payload and a zero reserved field every end of the bridge
looks at the trailer and at nothing else. -/
theorem ends_check_trailer (p : SpiProtocol) (hidle : p.rx.state = .idle) (cmd : Byte)
    (payload : List Byte) (trailer : BitVec 32) (hlen : payload.length ≤ maxPayload)
    (hne : payload ≠ []) :
    [trailer = crc32 payload, Built (rawFrame cmd payload 0 trailer),
      HostAccepts (rawFrame cmd payload 0 trailer), MainTakes p (rawFrame cmd payload 0 trailer),
      IsrTakes Spi0.zero (rawFrame cmd payload 0 trailer)].TFAE := by
  have hmax : maxPayload = 4092 := rfl
  have hfields {cmd' : Byte} {payload' : List Byte} {reserved' trailer' : BitVec 32}
      (hlen' : payload'.length ≤ maxPayload)
      (h : rawFrame cmd payload 0 trailer = rawFrame cmd' payload' reserved' trailer')
      (hright : payload' ≠ [] → trailer' = crc32 payload') : trailer = crc32 payload := by
    obtain ⟨-, rfl, -, rfl⟩ := rawFrame_inj (by omega) (by omega) h
    exact hright hne
  tfae_have 1 → 2 := by
    rintro rfl
    exact (built_iff _).mpr ⟨cmd, payload, hlen, rfl⟩
  tfae_have 1 → 3 := by
    rintro rfl
    exact (hostAccepts_iff _).mpr ⟨cmd, payload, 0, crc32 payload, hlen, rfl, fun _ => rfl⟩
  tfae_have 1 → 4 := by
    rintro rfl
    exact (mainTakes_iff p hidle _).mpr ((mainPolicy.takes_iff _).mpr
      ⟨cmd, payload, 0, crc32 payload, hlen, rfl, fun _ => rfl, fun _ => rfl⟩)
  tfae_have 1 → 5 := by
    rintro rfl
    exact (isrTakes_iff _).mpr ((isrPolicy.takes_iff _).mpr
      ⟨cmd, payload, 0, crc32 payload, hlen, rfl, fun _ => rfl, fun _ => rfl⟩)
  tfae_have 2 → 1 := by
    intro h
    obtain ⟨cmd', payload', hlen', heq⟩ := (built_iff _).mp h
    exact hfields hlen' heq fun _ => rfl
  tfae_have 3 → 1 := by
    intro h
    obtain ⟨cmd', payload', reserved', trailer', hlen', heq, hright⟩ := (hostAccepts_iff _).mp h
    exact hfields hlen' heq hright
  tfae_have 4 → 1 := by
    intro h
    obtain ⟨cmd', payload', reserved', trailer', hlen', heq, -, hright⟩ :=
      (mainPolicy.takes_iff _).mp ((mainTakes_iff p hidle _).mp h)
    exact hfields hlen' heq fun hne' => hright (.inl hne')
  tfae_have 5 → 1 := by
    intro h
    obtain ⟨cmd', payload', reserved', trailer', hlen', heq, -, hright⟩ :=
      (isrPolicy.takes_iff _).mp ((isrTakes_iff _).mp h)
    exact hfields hlen' heq fun hne' => hright (.inl hne')
  tfae_finish

section

variable (cmd : Byte) (payload error : List Byte) (hlen : payload.length ≤ maxPayload)
  (hne : payload ≠ []) (herror : error.length = payload.length + crc32Size)

include hlen hne herror

/-- A damaged frame is a frame of the same length whose trailer is right exactly
when the generator divides the damage. -/
theorem corruptBody_encode :
    ∃ payload' trailer', payload'.length = payload.length ∧ payload' ≠ [] ∧
      corruptBody (encode cmd payload) error = rawFrame cmd payload' 0 trailer' ∧
        (trailer' = crc32 payload' ↔ bitwise crc32Poly 0#32 error = 0#32) := by
  have hmax : maxPayload = 4092 := rfl
  have htake : (error.take payload.length).length = payload.length := by
    rw [List.length_take]
    omega
  have hsame := xorBytes_length payload (error.take payload.length) htake
  have hframe := corruptBody_rawFrame cmd payload error 0 (crc32 payload) [] (by omega) herror
  rw [List.append_nil, List.append_nil] at hframe
  refine ⟨_, _, hsame, ?_, hframe, trailer_kept_iff payload error herror⟩
  intro hnil
  rw [hnil] at hsame
  exact hne (List.eq_nil_of_length_eq_zero hsame.symm)

variable (p : SpiProtocol) (hidle : p.rx.state = .idle)

include hidle

/-- The four ends take a damaged frame exactly when the generator divides the
damage. -/
theorem damaged_body_taken_alike :
    [bitwise crc32Poly 0#32 error = 0#32, Built (corruptBody (encode cmd payload) error),
      HostAccepts (corruptBody (encode cmd payload) error),
      MainTakes p (corruptBody (encode cmd payload) error),
      IsrTakes Spi0.zero (corruptBody (encode cmd payload) error)].TFAE := by
  obtain ⟨payload', trailer', hsame, hne', heq, hkept⟩ :=
    corruptBody_encode cmd payload error hlen hne herror
  rw [heq, ← propext hkept]
  exact ends_check_trailer p hidle cmd payload' trailer' (by omega) hne'

/-- Two flipped bits of payload and trailer, or a burst of up to 32 bits, and no
end takes the frame. -/
theorem damaged_body_refused
    (hdamage : (∃ i j, i < j ∧ FlipsTwo i j error) ∨ Burst 32 error) :
    ¬ Built (corruptBody (encode cmd payload) error) ∧
      ¬ HostAccepts (corruptBody (encode cmd payload) error) ∧
      ¬ MainTakes p (corruptBody (encode cmd payload) error) ∧
      ¬ IsrTakes Spi0.zero (corruptBody (encode cmd payload) error) := by
  have hmax : maxPayload = 4092 := rfl
  have hremainder : bitwise crc32Poly 0#32 error ≠ 0#32 := by
    rcases hdamage with ⟨i, j, hij, hflips⟩ | hburst
    · exact crc32_flipsTwo_ne hflips hij (by omega)
    · exact crc32_burst_ne hburst
  obtain ⟨payload', trailer', hsame, hne', heq, hkept⟩ :=
    corruptBody_encode cmd payload error hlen hne herror
  have hwrong := mt hkept.mp hremainder
  have hends := ends_check_trailer p hidle cmd payload' trailer' (by omega) hne'
  rw [heq]
  exact ⟨mt (hends.out 1 0).mp hwrong, mt (hends.out 2 0).mp hwrong,
    mt (hends.out 3 0).mp hwrong, mt (hends.out 4 0).mp hwrong⟩

end

/-- One flipped bit in the last payload byte and one in the first of the
trailer. -/
def straddlingError : List Byte := [0, 0, 0x10, 0x40, 0, 0, 0]

theorem straddlingError_flipsTwo : FlipsTwo 20 30 straddlingError := by
  have hinside : ∀ k < 56, bitAt straddlingError k = true ↔ k = 20 ∨ k = 30 := by decide
  intro k
  by_cases hk : k < 56
  · exact hinside k hk
  · refine iff_of_false (fun hbit => hk (bitAt_lt hbit)) ?_
    omega

theorem damaged_body_taken_alike_straddling :
    [bitwise crc32Poly 0#32 straddlingError = 0#32,
      Built (corruptBody (encode cmdTelemetry [1, 2, 3]) straddlingError),
      HostAccepts (corruptBody (encode cmdTelemetry [1, 2, 3]) straddlingError),
      MainTakes (boot true true true).proto
        (corruptBody (encode cmdTelemetry [1, 2, 3]) straddlingError),
      IsrTakes Spi0.zero (corruptBody (encode cmdTelemetry [1, 2, 3]) straddlingError)].TFAE :=
  damaged_body_taken_alike cmdTelemetry [1, 2, 3] straddlingError (by decide) (by decide) rfl
    (boot true true true).proto rfl

theorem damaged_body_refused_straddling :
    ¬ HostAccepts (corruptBody (encode cmdTelemetry [1, 2, 3]) straddlingError) ∧
      ¬ MainTakes (boot true true true).proto
        (corruptBody (encode cmdTelemetry [1, 2, 3]) straddlingError) := by
  have h := damaged_body_refused cmdTelemetry [1, 2, 3] straddlingError (by decide) (by decide) rfl
    (boot true true true).proto rfl (.inl ⟨20, 30, by decide, straddlingError_flipsTwo⟩)
  exact ⟨h.2.1, h.2.2.1⟩

end GhostBlade.Bridge
