import VFlow.Base.BigEndian

/-!
# The information model

The data types of information elements, the map `InfoModel` from element keys to types, and
`Interpret`, which turns the bytes of a field into a value of its element's type.

`InfoModel` is a package variable: it starts as a literal (`infoModel`) and is replaced when an
elements file is loaded, so the decoders take it as a parameter. Both ways of filling it give an
entry the element id of its key, and `IANAInfoModel` carries this as a field.
-/

namespace VFlow

inductive FieldType where
  | unknown | uint8 | uint16 | uint32 | uint64 | int8 | int16 | int32 | int64 | float32 | float64
  | boolean | macAddress | octetArray | string | dateTimeSeconds | dateTimeMilliseconds
  | dateTimeMicroseconds | dateTimeNanoseconds | ipv4Address | ipv6Address
  deriving DecidableEq, Repr

structure ElementKey where
  enterpriseNo : UInt32
  elementID : UInt16
  deriving DecidableEq, Repr

/-- `InfoElementEntry`, without the name. -/
structure InfoElementEntry where
  fieldID : UInt16
  type : FieldType
  deriving DecidableEq, Repr

/-- A value that `InfoModel` can have. -/
structure IANAInfoModel where
  lookup : ElementKey → Option InfoElementEntry
  fieldID_eq : ∀ key entry, lookup key = some entry → entry.fieldID = key.elementID

/-- The lines of the literal, all of enterprise `0`: the element id, which is also the `FieldID` of
the entry, and the type. `FieldTypes` has no list types, so that theirs is `Unknown`. -/
def infoElements : List (UInt16 × FieldType) :=
  [(1, .uint64), (2, .uint64), (3, .uint64), (4, .uint8), (5, .uint8), (6, .uint16), (7, .uint16),
   (8, .ipv4Address), (9, .uint8), (10, .uint32), (11, .uint16), (12, .ipv4Address), (13, .uint8),
   (14, .uint32), (15, .ipv4Address), (16, .uint32), (17, .uint32), (18, .ipv4Address),
   (19, .uint64), (20, .uint64), (21, .uint32), (22, .uint32), (23, .uint64), (24, .uint64),
   (25, .uint64), (26, .uint64), (27, .ipv6Address), (28, .ipv6Address), (29, .uint8),
   (30, .uint8), (31, .uint32), (32, .uint16), (33, .uint8), (34, .uint32), (35, .uint8),
   (36, .uint16), (37, .uint16), (38, .uint8), (39, .uint8), (40, .uint64), (41, .uint64),
   (42, .uint64), (43, .ipv4Address), (44, .ipv4Address), (45, .ipv4Address), (46, .uint8),
   (47, .ipv4Address), (48, .uint8), (49, .uint8), (50, .uint32), (51, .uint8), (52, .uint8),
   (53, .uint8), (54, .uint32), (55, .uint8), (56, .macAddress), (57, .macAddress), (58, .uint16),
   (59, .uint16), (60, .uint8), (61, .uint8), (62, .ipv6Address), (63, .ipv6Address),
   (64, .uint32), (70, .octetArray), (71, .octetArray), (72, .octetArray), (73, .octetArray),
   (74, .octetArray), (75, .octetArray), (76, .octetArray), (77, .octetArray), (78, .octetArray),
   (79, .octetArray), (80, .macAddress), (81, .macAddress), (82, .string), (83, .string),
   (84, .string), (85, .uint64), (86, .uint64), (87, .uint32), (88, .uint16), (89, .uint32),
   (90, .octetArray), (91, .uint8), (92, .uint32), (93, .uint32), (94, .string), (95, .octetArray),
   (96, .string), (98, .uint8), (99, .uint32), (100, .string), (101, .uint8), (102, .uint16),
   (103, .uint16), (104, .octetArray), (128, .uint32), (129, .uint32), (130, .ipv4Address),
   (131, .ipv6Address), (132, .uint64), (133, .uint64), (134, .uint64), (135, .uint64),
   (136, .uint8), (137, .uint64), (138, .uint64), (139, .uint16), (140, .ipv6Address),
   (141, .uint32), (142, .uint32), (143, .uint32), (144, .uint32), (145, .uint16), (146, .uint8),
   (147, .string), (148, .uint64), (149, .uint32), (150, .dateTimeSeconds),
   (151, .dateTimeSeconds), (152, .dateTimeMilliseconds), (153, .dateTimeMilliseconds),
   (154, .dateTimeMicroseconds), (155, .dateTimeMicroseconds), (156, .dateTimeNanoseconds),
   (157, .dateTimeNanoseconds), (158, .uint32), (159, .uint32), (160, .dateTimeMilliseconds),
   (161, .uint32), (162, .uint32), (163, .uint64), (164, .uint64), (165, .uint64), (166, .uint64),
   (167, .uint64), (168, .uint64), (169, .ipv6Address), (170, .ipv6Address), (171, .uint64),
   (172, .uint64), (173, .uint64), (174, .uint64), (175, .uint64), (176, .uint8), (177, .uint8),
   (178, .uint8), (179, .uint8), (180, .uint16), (181, .uint16), (182, .uint16), (183, .uint16),
   (184, .uint32), (185, .uint32), (186, .uint16), (187, .uint16), (188, .uint8), (189, .uint8),
   (190, .uint16), (191, .uint16), (192, .uint8), (193, .uint8), (194, .uint32), (195, .uint8),
   (196, .uint8), (197, .uint8), (198, .uint64), (199, .uint64), (200, .uint8), (201, .uint32),
   (202, .uint32), (203, .uint8), (204, .uint32), (205, .uint16), (206, .uint8), (207, .uint8),
   (208, .uint32), (209, .uint64), (210, .octetArray), (211, .ipv4Address), (212, .ipv6Address),
   (213, .uint32), (214, .uint8), (215, .uint8), (216, .uint16), (217, .uint16), (218, .uint64),
   (219, .uint64), (220, .uint64), (221, .uint64), (222, .uint64), (223, .uint64), (224, .uint64),
   (225, .ipv4Address), (226, .ipv4Address), (227, .uint16), (228, .uint16), (229, .uint8),
   (230, .uint8), (231, .uint64), (232, .uint64), (233, .uint8), (234, .uint32), (235, .uint32),
   (236, .string), (237, .uint8), (238, .uint16), (239, .uint8), (240, .uint8), (241, .uint16),
   (242, .uint16), (243, .uint16), (244, .uint8), (245, .uint16), (246, .uint8), (247, .string),
   (248, .uint8), (249, .uint32), (250, .uint16), (251, .uint32), (252, .uint32), (253, .uint32),
   (254, .uint16), (255, .uint16), (256, .uint16), (257, .uint8), (258, .dateTimeMilliseconds),
   (259, .uint16), (260, .dateTimeSeconds), (261, .dateTimeSeconds), (262, .octetArray),
   (263, .uint8), (264, .dateTimeSeconds), (265, .dateTimeSeconds), (266, .octetArray),
   (267, .uint8), (268, .dateTimeMicroseconds), (269, .dateTimeMilliseconds),
   (270, .dateTimeNanoseconds), (271, .dateTimeMicroseconds), (272, .dateTimeMilliseconds),
   (273, .dateTimeNanoseconds), (274, .octetArray), (275, .octetArray), (276, .boolean),
   (277, .uint8), (278, .uint32), (279, .uint64), (280, .uint64), (281, .ipv6Address),
   (282, .ipv6Address), (283, .uint32), (284, .string), (285, .uint16), (286, .uint16),
   (287, .uint16), (288, .string), (289, .string), (290, .string), (291, .unknown),
   (292, .unknown), (293, .unknown), (294, .uint8), (295, .uint32), (296, .uint32), (297, .uint8),
   (298, .uint64), (299, .uint64), (300, .string), (301, .uint64), (302, .uint64), (303, .uint16),
   (304, .uint16), (305, .uint32), (306, .uint32), (307, .uint32), (308, .uint32), (309, .uint32),
   (310, .uint32), (311, .float64), (312, .uint16), (313, .octetArray), (314, .octetArray),
   (315, .octetArray), (316, .octetArray), (317, .octetArray), (318, .uint64), (319, .uint64),
   (320, .float64), (321, .float64), (322, .dateTimeSeconds), (323, .dateTimeMilliseconds),
   (324, .dateTimeMicroseconds), (325, .dateTimeNanoseconds), (326, .uint64), (327, .uint64),
   (328, .uint64), (329, .uint64), (330, .uint64), (331, .uint64), (332, .uint64), (333, .boolean),
   (334, .uint64), (335, .string), (336, .float64), (337, .float64), (338, .float64),
   (339, .uint8), (340, .string), (341, .string), (342, .uint64), (343, .uint64), (344, .uint8),
   (345, .uint16), (346, .uint32), (347, .octetArray), (348, .string), (349, .octetArray),
   (350, .string), (351, .uint64), (352, .uint64), (353, .uint64), (354, .uint64), (355, .uint64),
   (356, .uint64), (357, .uint64), (358, .uint64), (359, .dateTimeMilliseconds),
   (360, .dateTimeMilliseconds), (361, .uint16), (362, .uint16), (363, .uint16), (364, .uint16),
   (365, .macAddress), (366, .ipv4Address), (367, .macAddress), (368, .uint32), (369, .uint32),
   (370, .uint16), (371, .string), (372, .string), (373, .string), (374, .string), (375, .uint64),
   (376, .uint64), (377, .uint64), (378, .uint64), (379, .uint64), (380, .uint32), (381, .uint32),
   (382, .uint64), (383, .uint64), (384, .uint8), (385, .uint32), (386, .uint32), (387, .uint32),
   (388, .boolean), (389, .boolean), (390, .uint16), (391, .uint64), (392, .uint64),
   (393, .uint64), (394, .uint64), (395, .uint64), (396, .uint64), (397, .uint64), (398, .uint64),
   (399, .uint64), (400, .uint16), (401, .uint64), (402, .uint64), (403, .ipv4Address),
   (404, .ipv6Address), (405, .uint32), (406, .uint32), (407, .uint64), (408, .uint16),
   (409, .uint16), (410, .uint16), (411, .octetArray), (412, .uint32), (413, .uint8),
   (414, .macAddress), (415, .macAddress), (417, .uint64), (418, .uint64), (420, .uint64),
   (421, .uint64), (422, .uint64), (423, .uint64), (424, .uint64), (425, .uint64), (426, .uint64),
   (427, .uint64), (428, .uint64), (429, .uint64), (430, .uint64), (431, .uint64),
   (432, .ipv4Address), (433, .uint64)]

/-- `InfoModel` as the package initialises it. -/
def infoModel : IANAInfoModel where
  lookup key :=
    if key.enterpriseNo = 0 then (infoElements.lookup key.elementID).map (InfoElementEntry.mk key.elementID)
    else none
  fieldID_eq key entry h := by
    split_ifs at h
    obtain ⟨type, -, rfl⟩ := Option.map_eq_some_iff.mp h
    rfl

/-! ## Interpret -/

/-- The dynamic value of a decoded field. A float is its bit pattern. -/
inductive Value where
  | bytes (b : List UInt8)
  | bool (v : Bool)
  | uint8 (v : UInt8)
  | uint16 (v : UInt16)
  | uint32 (v : UInt32)
  | uint64 (v : UInt64)
  | int8 (v : Int8)
  | int16 (v : Int16)
  | int32 (v : Int32)
  | int64 (v : Int64)
  | float32 (bits : UInt32)
  | float64 (bits : UInt64)
  | hardwareAddr (b : List UInt8)
  | string (b : List UInt8)
  | ip (b : List UInt8)
  deriving DecidableEq, Repr

def FieldType.minLen : FieldType → Nat
  | boolean => 1
  | uint8 | int8 => 1
  | uint16 | int16 => 2
  | uint32 | int32 | float32 => 4
  | dateTimeSeconds => 4
  | uint64 | int64 | float64 => 8
  | dateTimeMilliseconds | dateTimeMicroseconds | dateTimeNanoseconds => 8
  | macAddress => 6
  | ipv4Address => 4
  | ipv6Address => 16
  | _ => 0

def interpret (b : List UInt8) (t : FieldType) : Value :=
  if b.length < t.minLen then .bytes b
  else match t with
    | .boolean => .bool (b.getD 0 0 = 1)
    | .uint8 => .uint8 (b.getD 0 0)
    | .uint16 => .uint16 (BigEndian.uint16 b)
    | .uint32 => .uint32 (BigEndian.uint32 b)
    | .uint64 => .uint64 (BigEndian.uint64 b)
    | .int8 => .int8 (b.getD 0 0).toInt8
    | .int16 => .int16 (BigEndian.uint16 b).toInt16
    | .int32 => .int32 (BigEndian.uint32 b).toInt32
    | .int64 => .int64 (BigEndian.uint64 b).toInt64
    | .float32 => .float32 (BigEndian.uint32 b)
    | .float64 => .float64 (BigEndian.uint64 b)
    | .macAddress => .hardwareAddr b
    | .string => .string b
    | .ipv4Address | .ipv6Address => .ip b
    | .dateTimeSeconds => .uint32 (BigEndian.uint32 b)
    | .dateTimeMilliseconds | .dateTimeMicroseconds | .dateTimeNanoseconds => .uint64 (BigEndian.uint64 b)
    | .unknown | .octetArray => .bytes b

open BigEndian in
theorem interpret_ne {b b' : List UInt8} (t : FieldType) (hlen : b.length = b'.length) (hb : b.getD 0 0 = 0)
    (hb' : b'.getD 0 0 = 1) : interpret b t ≠ interpret b' t := by
  have hhead : (b.getD 0 0).toNat.testBit 0 ≠ (b'.getD 0 0).toNat.testBit 0 := by
    rw [hb, hb']
    decide
  have hbytes : b ≠ b' := fun h => hhead (by rw [h])
  have h16 : uint16 b ≠ uint16 b' := fun h => hhead (by rw [← testBit_uint16, ← testBit_uint16, h])
  have h32 : uint32 b ≠ uint32 b' := fun h => hhead (by rw [← testBit_uint32, ← testBit_uint32, h])
  have h64 : uint64 b ≠ uint64 b' := fun h => hhead (by rw [← testBit_uint64, ← testBit_uint64, h])
  unfold interpret
  rw [hlen]
  split_ifs with hshort
  · exact fun h => hbytes (Value.bytes.inj h)
  · intro h
    cases t with
    | boolean =>
      rw [hb, hb'] at h
      cases h
    | uint8 | int8 =>
      rw [hb, hb'] at h
      cases h
    | uint16 => exact h16 (Value.uint16.inj h)
    | uint32 | dateTimeSeconds => exact h32 (Value.uint32.inj h)
    | uint64 | dateTimeMilliseconds | dateTimeMicroseconds | dateTimeNanoseconds => exact h64 (Value.uint64.inj h)
    | int16 => exact h16 (congrArg Int16.toUInt16 (Value.int16.inj h))
    | int32 => exact h32 (congrArg Int32.toUInt32 (Value.int32.inj h))
    | int64 => exact h64 (congrArg Int64.toUInt64 (Value.int64.inj h))
    | float32 => exact h32 (Value.float32.inj h)
    | float64 => exact h64 (Value.float64.inj h)
    | macAddress => exact hbytes (Value.hardwareAddr.inj h)
    | string => exact hbytes (Value.string.inj h)
    | ipv4Address | ipv6Address => exact hbytes (Value.ip.inj h)
    | unknown | octetArray => exact hbytes (Value.bytes.inj h)

end VFlow
