import UniqueId.Word.Field

/-! Where the parts of an identifier lie. Three coordinate systems meet here: the 60-bit timestamp
and the 14-bit clock sequence as numbers of their own, and the two halves of the identifier into
which their pieces are written. -/
namespace UniqueId.Layout

/-! The pieces of a timestamp. -/
namespace Timestamp

def low : Field := { mask := 0x00000000ffffffff, offset := 0 }
def mid : Field := { mask := 0x0000ffff00000000, offset := 32 }
def high : Field := { mask := 0x0fff000000000000, offset := 48 }

end Timestamp

/-! The pieces of a clock sequence. Above its fourteen bits lie the two that the identifier uses
for the variant. -/
namespace ClockSequence

def low : Field := { mask := 0x00ff, offset := 0 }
def high : Field := { mask := 0x3f00, offset := 8 }
def reserved : Field := { mask := 0xc000, offset := 14 }
def highAndReserved : Field := { mask := 0xff00, offset := 8 }

end ClockSequence

/-! The high half: the timestamp with its lowest part first, and the version between. -/
namespace HighWord

def version : Field := { mask := 0xf000, offset := 12 }
def timeLow : Field := { mask := 0xffffffff00000000, offset := 32 }
def timeMid : Field := { mask := 0x00000000ffff0000, offset := 16 }
def timeHigh : Field := { mask := 0x0000000000000fff, offset := 0 }

end HighWord

/-! The low half: variant, clock sequence and node. The variant is two bits wide for the layout
defined here and three where the other families have to be told apart. -/
namespace LowWord

def octet8 : Field := { mask := 0xff00000000000000, offset := 56 }
def octet9 : Field := { mask := 0x00ff000000000000, offset := 48 }
def clockSequence : Field := { mask := 0x3fff000000000000, offset := 48 }
def node : Field := { mask := 0x0000ffffffffffff, offset := 0 }
def variant : Field := { mask := 0xc000000000000000, offset := 62 }
def family : Field := { mask := 0xe000000000000000, offset := 61 }

end LowWord

/-- The value of the two-bit variant field in the layout defined here. -/
def standardVariant : UInt64 := 0b10

end UniqueId.Layout
