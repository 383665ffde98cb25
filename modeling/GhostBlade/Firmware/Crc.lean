import GhostBlade.Protocol.Frame

/-!
The table-driven checksums of the firmware (`spi_protocol.c`). The tables are
filled by the same eight bit steps the host takes for every byte, so both
programs compute the checksums of the frame format.
-/

namespace GhostBlade.Firmware

open GhostBlade.Library GhostBlade.Protocol

/-- The table `crc64_init` fills. -/
def crc64Table : Vector (BitVec 64) 256 :=
  Vector.ofFn fun i => (Crc.bitStep 0x42F0E1EBA9EA3693#64)^[8] (BitVec.ofNat 64 i.val)

/-- The table `crc32_init` fills. -/
def crc32Table : Vector (BitVec 32) 256 :=
  Vector.ofFn fun i => (Crc.bitStep 0xEDB88320#32)^[8] (BitVec.ofNat 32 i.val)

def crc64Compute (data : List Byte) : BitVec 64 :=
  data.foldl
    (fun crc b => crc64Table[((crc ^^^ b.setWidth 64) &&& 0xFF#64).toNat]! ^^^ (crc >>> 8))
    0xFFFFFFFFFFFFFFFF#64 ^^^ 0xFFFFFFFFFFFFFFFF#64

def crc32Compute (data : List Byte) : BitVec 32 :=
  data.foldl
    (fun crc b => crc32Table[((crc ^^^ b.setWidth 32) &&& 0xFF#32).toNat]! ^^^ (crc >>> 8))
    0xFFFFFFFF#32 ^^^ 0xFFFFFFFF#32

/-- The table an initialiser fills for its polynomial. -/
def crcInit {w : Nat} (poly : BitVec w) : Vector (BitVec w) 256 :=
  Vector.ofFn fun i => (Crc.bitStep poly)^[8] (BitVec.ofNat w i.val)

/-- The loop of both functions, from any register. -/
def crcContinue {w : Nat} (table : Vector (BitVec w) 256) (crc : BitVec w)
    (data : List Byte) : BitVec w :=
  data.foldl (fun crc b => table[((crc ^^^ b.setWidth w) &&& 0xFF#w).toNat]! ^^^ (crc >>> 8)) crc

/-- The copies in `rp2350b_init.c`, over tables of their own. -/
def Rp2350bInit.crc64Compute (data : List Byte) : BitVec 64 :=
  crcContinue (crcInit 0x42F0E1EBA9EA3693#64) 0xFFFFFFFFFFFFFFFF#64 data ^^^
    0xFFFFFFFFFFFFFFFF#64

def Rp2350bInit.crc32Compute (data : List Byte) : BitVec 32 :=
  crcContinue (crcInit 0xEDB88320#32) 0xFFFFFFFF#32 data ^^^ 0xFFFFFFFF#32

/-- The masked index is the low byte. -/
theorem masked_index {w : Nat} (hw : 8 ≤ w) (x : BitVec w) :
    (x &&& 0xFF#w).toNat = (x.setWidth 8).toNat := by
  have hpow : 2 ^ 8 ≤ 2 ^ w := Nat.pow_le_pow_right (by omega) hw
  have hmask : (0xFF#w).toNat = 2 ^ 8 - 1 := by
    rw [BitVec.toNat_ofNat, Nat.mod_eq_of_lt (by omega)]
    rfl
  rw [BitVec.toNat_and, hmask, Nat.and_two_pow_sub_one_eq_mod, BitVec.toNat_setWidth]

/-- A table filled by eight bit steps, looked up at the masked index. -/
theorem table_lookup {w : Nat} (hw : 8 ≤ w) (poly x : BitVec w) :
    (Vector.ofFn fun i : Fin 256 =>
      (Crc.bitStep poly)^[8] (BitVec.ofNat w i.val))[(x &&& 0xFF#w).toNat]! =
      Crc.tableEntry poly (x.setWidth 8) := by
  have hlt : (x &&& 0xFF#w).toNat < 256 := by
    rw [masked_index hw]
    exact (x.setWidth 8).isLt
  let table : Vector (BitVec w) 256 :=
    Vector.ofFn fun i => (Crc.bitStep poly)^[8] (BitVec.ofNat w i.val)
  have hget : table[(x &&& 0xFF#w).toNat]! = table[(x &&& 0xFF#w).toNat] :=
    getElem!_pos table _ hlt
  rw [hget, Vector.getElem_ofFn, Crc.tableEntry]
  simp only [masked_index hw, BitVec.ofNat_toNat]

/-- The loop over the table is the bitwise check, from any register. -/
theorem crcContinue_eq {w : Nat} (hw : 8 ≤ w) (poly crc : BitVec w) (data : List Byte) :
    crcContinue (crcInit poly) crc data = Crc.bitwise poly crc data := by
  have hstep : (fun (crc : BitVec w) (b : Byte) =>
      (crcInit poly)[((crc ^^^ b.setWidth w) &&& 0xFF#w).toNat]! ^^^ (crc >>> 8)) =
      Crc.tableStep (Crc.tableEntry poly) := by
    funext crc b
    exact congrArg (· ^^^ (crc >>> 8)) (table_lookup hw poly _)
  rw [crcContinue, hstep]
  exact Crc.tabled_eq_bitwise poly crc data

theorem crc64Compute_eq (data : List Byte) : crc64Compute data = crc64 data :=
  congrArg (· ^^^ _) (crcContinue_eq (by omega) crc64Poly _ data)

theorem crc32Compute_eq (data : List Byte) : crc32Compute data = crc32 data :=
  congrArg (· ^^^ _) (crcContinue_eq (by omega) crc32Poly _ data)

end GhostBlade.Firmware
