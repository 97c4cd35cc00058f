/-!
# Icons

The picture data that the bus is given for the device, in two sizes, octet by octet.
-/

namespace HumidifierBridge.Icon

/-- The name of the smaller picture. -/
def fileName : String := "venta-humifier-16.png"

/-- The picture of 16 by 16 pixels. -/
def small : List UInt8 :=
  [0xef, 0xbf, 0xbd, 0x50, 0x4e, 0x47, 0x0d, 0x0a, 0x1a, 0x0a, 0x00, 0x00, 0x00, 0x0d, 0x49,
    0x48, 0x44, 0x52, 0x00, 0x00, 0x00, 0x10, 0x00, 0x00, 0x00, 0x10, 0x08, 0x06, 0x00, 0x00,
    0x00, 0x1f, 0xef, 0xbf, 0xbd, 0xef, 0xbf, 0xbd, 0x61, 0x00, 0x00, 0x00, 0x34, 0x49, 0x44,
    0x41, 0x54, 0x78, 0xef, 0xbf, 0xbd, 0x63, 0x60, 0x18, 0xef, 0xbf, 0xbd, 0x40, 0xef, 0xbf,
    0xbd, 0xef, 0xbf, 0xbd, 0xef, 0xbf, 0xbd, 0x7f, 0x10, 0x1e, 0x18, 0x03, 0x60, 0xef, 0xbf,
    0xbd, 0xef, 0xbf, 0xbd, 0x32, 0x04, 0x5d, 0x33, 0x49, 0xef, 0xbf, 0xbd, 0xef, 0xbf, 0xbd,
    0xef, 0xbf, 0xbd, 0x4c, 0xef, 0xbf, 0xbd, 0x21, 0xef, 0xbf, 0xbd, 0x34, 0x13, 0x34, 0x64,
    0xef, 0xbf, 0xbd, 0x00, 0x2a, 0xef, 0xbf, 0xbd, 0x02, 0x55, 0xef, 0xbf, 0xbd, 0x01, 0x55,
    0xef, 0xbf, 0xbd, 0x02, 0x31, 0x00, 0x00, 0xef, 0xbf, 0xbd, 0xef, 0xbf, 0xbd, 0xef, 0xbf,
    0xbd, 0x21, 0x08, 0xef, 0xbf, 0xbd, 0x45, 0x38, 0x00, 0x00, 0x00, 0x00, 0x49, 0x45, 0x4e,
    0x44, 0xef, 0xbf, 0xbd, 0x42, 0x60, 0xef, 0xbf, 0xbd]

/-- The picture of 48 by 48 pixels. -/
def large : List UInt8 :=
  [0xef, 0xbf, 0xbd, 0x50, 0x4e, 0x47, 0x0d, 0x0a, 0x1a, 0x0a, 0x00, 0x00, 0x00, 0x0d, 0x49,
    0x48, 0x44, 0x52, 0x00, 0x00, 0x00, 0x30, 0x00, 0x00, 0x00, 0x30, 0x08, 0x06, 0x00, 0x00,
    0x00, 0x57, 0x02, 0xef, 0xbf, 0xbd, 0xef, 0xbf, 0xbd, 0x00, 0x00, 0x00, 0xef, 0xbf, 0xbd,
    0x49, 0x44, 0x41, 0x54, 0x78, 0xef, 0xbf, 0xbd, 0xef, 0xbf, 0xbd, 0xd9, 0xbb, 0x0d, 0xef,
    0xbf, 0xbd, 0x30, 0x10, 0x04, 0x51, 0xef, 0xbf, 0xbd, 0x43, 0xef, 0xbf, 0xbd, 0x34, 0x47,
    0x3f, 0x20, 0x52, 0x4b, 0x08, 0x10, 0xef, 0xbf, 0xbd, 0xef, 0xbf, 0xbd, 0x63, 0x56, 0x22,
    0xef, 0xbf, 0xbd, 0xef, 0xbf, 0xbd, 0xef, 0xbf, 0xbd, 0x66, 0x0c, 0xef, 0xbf, 0xbd, 0x18,
    0x6b, 0xef, 0xbf, 0xbd, 0x65, 0xef, 0xbf, 0xbd, 0xef, 0xbf, 0xbd, 0xf3, 0x93, 0x8e, 0x97,
    0x45, 0x48, 0x03, 0xef, 0xbf, 0xbd, 0x78, 0x29, 0xef, 0xbf, 0xbd, 0x55, 0xef, 0xbf, 0xbd,
    0x0c, 0x42, 0x1a, 0x70, 0x17, 0x5f, 0x1a, 0xef, 0xbf, 0xbd, 0x34, 0xef, 0xbf, 0xbd, 0x2c,
    0x42, 0x16, 0xef, 0xbf, 0xbd, 0x36, 0xef, 0xbf, 0xbd, 0x14, 0xef, 0xbf, 0xbd, 0x6b, 0x7c,
    0x2a, 0xef, 0xbf, 0xbd, 0x2a, 0x3e, 0x05, 0x61, 0x1d, 0x1f, 0xef, 0xbf, 0xbd, 0xef, 0xbf,
    0xbd, 0xef, 0xbf, 0xbd, 0x0f, 0x41, 0x78, 0xc7, 0xbb, 0x22, 0xef, 0xbf, 0xbd, 0xef, 0xbf,
    0xbd, 0xef, 0xbf, 0xbd, 0x10, 0x00, 0x32, 0x01, 0xef, 0xbf, 0xbd, 0xef, 0xbf, 0xbd, 0xef,
    0xbf, 0xbd, 0x08, 0x00, 0x00, 0x00, 0x00, 0x00, 0x00, 0x40, 0x1a, 0xef, 0xbf, 0xbd, 0x59,
    0xef, 0xbf, 0xbd, 0x6f, 0x47, 0x6a, 0x2e, 0x34, 0x6d, 0xef, 0xbf, 0xbd, 0xef, 0xbf, 0xbd,
    0x2d, 0x2e, 0xef, 0xbf, 0xbd, 0x2d, 0xef, 0xbf, 0xbd, 0x55, 0x5a, 0x3c, 0x6c, 0x59, 0x40,
    0xef, 0xbf, 0xbd, 0x3f, 0xef, 0xbf, 0xbd, 0x18, 0x1b, 0x07, 0x4f, 0x1c, 0xef, 0xbf, 0xbd,
    0x72, 0xef, 0xbf, 0xbd, 0xef, 0xbf, 0xbd, 0xef, 0xbf, 0xbd, 0x11, 0x00, 0x00, 0x00, 0x00,
    0x49, 0x45, 0x4e, 0x44, 0xef, 0xbf, 0xbd, 0x42, 0x60, 0xef, 0xbf, 0xbd]

end HumidifierBridge.Icon
