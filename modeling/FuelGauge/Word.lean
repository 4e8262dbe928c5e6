/-!
Sixteen-bit words as pairs of bytes. Commands travel low byte first; data flash
keeps the high byte first. A word and its two bytes determine each other.
-/

namespace FuelGauge.Word

def low (word : UInt16) : UInt8 := word.toUInt8

def high (word : UInt16) : UInt8 := (word / 256).toUInt8

def ofBytes (low high : UInt8) : UInt16 := low.toUInt16 + 256 * high.toUInt16

/-- The order of data flash: high byte, then low byte. -/
def bigEndian (word : UInt16) : UInt8 × UInt8 := (high word, low word)

theorem toNat_ofBytes (low high : UInt8) :
    (ofBytes low high).toNat = low.toNat + 256 * high.toNat := by
  have low_lt := low.toNat_lt
  have high_lt := high.toNat_lt
  have radix : (256 : UInt16).toNat = 256 := rfl
  simp only [ofBytes, UInt16.toNat_add, UInt16.toNat_mul, UInt8.toNat_toUInt16, radix]
  omega

theorem toNat_low (word : UInt16) : (low word).toNat = word.toNat % 256 := by
  simp [low]

theorem toNat_high (word : UInt16) : (high word).toNat = word.toNat / 256 := by
  have word_lt := word.toNat_lt
  have radix : (256 : UInt16).toNat = 256 := rfl
  simp only [high, UInt16.toNat_toUInt8, UInt16.toNat_div, radix]
  omega

theorem low_ofBytes (l h : UInt8) : low (ofBytes l h) = l := by
  apply UInt8.toNat_inj.mp
  rw [toNat_low, toNat_ofBytes]
  have := l.toNat_lt
  omega

theorem high_ofBytes (l h : UInt8) : high (ofBytes l h) = h := by
  apply UInt8.toNat_inj.mp
  rw [toNat_high, toNat_ofBytes]
  have := l.toNat_lt
  omega

theorem ofBytes_low_high (word : UInt16) : ofBytes (low word) (high word) = word := by
  apply UInt16.toNat_inj.mp
  rw [toNat_ofBytes, toNat_low, toNat_high]
  omega

end FuelGauge.Word
