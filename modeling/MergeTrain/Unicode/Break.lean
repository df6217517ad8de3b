import MergeTrain.Unicode.Classification

/-!
# Classes for breaks

Where a text may be broken depends on classes of characters. There is one set of classes each for
the characters that users see, for words and for sentences. What has no class of its own there has
no name either.

## Main definitions

* `graphemeBreak`, `wordBreak`, `sentenceBreak` — the three sets of classes.
-/

namespace MergeTrain.Unicode

/-- The lengths of the runs of characters with one class, each with a letter for that class. -/
def graphemeBreakText : String :=
  String.join
    [ "10B1E2B1A18B95z33B13z1B594z112C275z7C263z45C1z1C1z2C1z2C1z1C56z6H10z11C1z1B46z21C16z1C101z",
      "7C1H1z6C2z2C1z4C33z1H1z1C30z27C91z11C58z9C9z1C24z4C1z9C1z3C1z5C43z3C52z2H5z9C42z24C1H32C1J",
      "54z1C1J1C1z3J8C4J1C2J1z7C10z2C29z1C2J56z1C1z1C2J4C2z2J2z2J1C9z1C10z2C26z1C2z2C1J56z1C1z3J2",
      "C4z2C2z3C3z1C30z2C3z1C11z2C1J56z1C1z3J5C1z2C1J1z2J1C20z2C22z6C1z1C2J56z1C1z2C1J4C2z2J2z2J1",
      "C7z3C10z2C30z1C59z1C1J1C2J3z3J1z3J1C9z1C40z1C3J1C55z1C1z3C4J1z3C1z4C7z2C11z2C29z1C2J56z1C1",
      "z1J2C1J1C2J1z3C1z4C7z2C11z2C15z1J12z2C2J55z2C1z1C2J4C1z3J1z3J1C1H8z1C10z2C29z1C2J70z1C4z1C",
      "2J3C1z1C1z7J1C18z2J61z1C1z1J7C12z8C98z1C1z1J9C11z7C73z2C27z1C1z1C1z1C4z2J49z14C1J5C1z2C5z1",
      "1C1z36C9z1C102z4C1J6C1z2C2J2C23z2J2C4z3C16z4C13z1C1z1J2C6z1C15z1C98z96D72L88K349z3C946z4C2",
      "8z3C29z2C30z2C64z2C1J7C8J1C2J11C9z1C45z3C1B1C117z2C34z1C118z3C4J2C3J4z2J1C6J3C219z2C2J1C57",
      "z1J1C1J7C1z1C1z1C2z8C6J10C2z1C48z31C49z4C1J47z10C4J3C38z9C12z2C1J30z1J4C2J6C56z1C1J2C3J1C1",
      "J5C48z8J8C2J2C152z3C1z13C1J7C4z1C6z1C2z1J2C198z64C523z1B1C1M2B24z7B49z16B96z33C3070z3C141z",
      "1C96z32C554z6C105z2C30164z4C1z10C32z2C80z2C272z1C3z1C4z1C23z2J2C1J4z1C83z2J50z16J2C26z18C1",
      "3z1C38z8C25z11C1J1C12z29D3z3C1J47z1C2J4C2J2C2J1C36z1C67z6C2J2C2J2C12z1C8z1C1J46z1C51z1C1z3",
      "C2z2C5z2C1z1C41z1J2C2J5z1J1C236z2J1C2J1C2J1z1J1C18z1F27G1F27G1F27G1F27G1F27G1F27G1F27G1F27",
      "G1F27G1F27G1F27G1F27G1F27G1F27G1F27G1F27G1F27G1F27G1F27G1F27G1F27G1F27G1F27G1F27G1F27G1F27",
      "G1F27G1F27G1F27G1F27G1F27G1F27G1F27G1F27G1F27G1F27G1F27G1F27G1F27G1F27G1F27G1F27G1F27G1F27",
      "G1F27G1F27G1F27G1F27G1F27G1F27G1F27G1F27G1F27G1F27G1F27G1F27G1F27G1F27G1F27G1F27G1F27G1F27",
      "G1F27G1F27G1F27G1F27G1F27G1F27G1F27G1F27G1F27G1F27G1F27G1F27G1F27G1F27G1F27G1F27G1F27G1F27",
      "G1F27G1F27G1F27G1F27G1F27G1F27G1F27G1F27G1F27G1F27G1F27G1F27G1F27G1F27G1F27G1F27G1F27G1F27",
      "G1F27G1F27G1F27G1F27G1F27G1F27G1F27G1F27G1F27G1F27G1F27G1F27G1F27G1F27G1F27G1F27G1F27G1F27",
      "G1F27G1F27G1F27G1F27G1F27G1F27G1F27G1F27G1F27G1F27G1F27G1F27G1F27G1F27G1F27G1F27G1F27G1F27",
      "G1F27G1F27G1F27G1F27G1F27G1F27G1F27G1F27G1F27G1F27G1F27G1F27G1F27G1F27G1F27G1F27G1F27G1F27",
      "G1F27G1F27G1F27G1F27G1F27G1F27G1F27G1F27G1F27G1F27G1F27G1F27G1F27G1F27G1F27G1F27G1F27G1F27",
      "G1F27G1F27G1F27G1F27G1F27G1F27G1F27G1F27G1F27G1F27G1F27G1F27G1F27G1F27G1F27G1F27G1F27G1F27",
      "G1F27G1F27G1F27G1F27G1F27G1F27G1F27G1F27G1F27G1F27G1F27G1F27G1F27G1F27G1F27G1F27G1F27G1F27",
      "G1F27G1F27G1F27G1F27G1F27G1F27G1F27G1F27G1F27G1F27G1F27G1F27G1F27G1F27G1F27G1F27G1F27G1F27",
      "G1F27G1F27G1F27G1F27G1F27G1F27G1F27G1F27G1F27G1F27G1F27G1F27G1F27G1F27G1F27G1F27G1F27G1F27",
      "G1F27G1F27G1F27G1F27G1F27G1F27G1F27G1F27G1F27G1F27G1F27G1F27G1F27G1F27G1F27G1F27G1F27G1F27",
      "G1F27G1F27G1F27G1F27G1F27G1F27G1F27G1F27G1F27G1F27G1F27G1F27G1F27G1F27G1F27G1F27G1F27G1F27",
      "G1F27G1F27G1F27G1F27G1F27G1F27G1F27G1F27G1F27G1F27G1F27G1F27G1F27G1F27G1F27G1F27G1F27G1F27",
      "G1F27G1F27G1F27G1F27G1F27G1F27G1F27G1F27G1F27G1F27G1F27G1F27G1F27G1F27G1F27G1F27G1F27G1F27",
      "G1F27G1F27G1F27G1F27G1F27G1F27G1F27G1F27G1F27G1F27G1F27G1F27G1F27G1F27G1F27G1F27G1F27G1F27",
      "G1F27G1F27G1F27G1F27G1F27G1F27G1F27G1F27G1F27G1F27G1F27G1F27G1F27G1F27G1F27G1F27G1F27G1F27",
      "G1F27G1F27G1F27G1F27G1F27G1F27G1F27G1F27G1F27G1F27G1F27G1F27G1F27G1F27G1F27G1F27G1F27G1F27",
      "G1F27G1F27G1F27G1F27G1F27G1F27G1F27G1F27G1F27G1F27G1F27G1F27G1F27G1F27G1F27G1F27G1F27G1F27",
      "G1F27G1F27G1F27G1F27G1F27G1F27G1F27G1F27G1F27G1F27G1F27G1F27G1F27G12z23L4z49K8994z1C737z16",
      "C16z16C207z1B158z2C80z12B513z1C226z1C149z5C1670z3C1z2C5z4C40z3C4z1C165z2C573z4C65z5C317z2C",
      "79z4C70z11C49z4C122z1J1C1J53z15C41z1C2z2C10z3C1J45z3J4C2J2C2z1H4z1C10z1H50z3C36z5C1J8C16z2",
      "J44z1C12z2C1J48z3J9C1J1C1z2H5z4C1z1J1C92z3J3C2J4C6z1C2z1C157z1C3J8C21z2C2J55z2C1z1C1J1C4J2",
      "z2J2z2J1C9z1C10z2J2z7C3z5C67z1C2J6C1z1C2z1C1z3C1J1z2J3C1H1C14z2C82z3J8C2J3C1J1C23z1C81z1C2",
      "J6C1J1C2J1C1J2C1J2C235z1C2J4C2z4J2C1J2C27z2C82z3J8C2J1C1J2C106z1C1J1C2J8C101z1C1J1C2z4C1J5",
      "C256z3J9C1J2C245z1C5J1z2J2z4C1H1J1H1J1C141z3J4C2z2C4J1C3z1J28z10C40z6C1J1H4C8z1C9z6C2J3C40",
      "z6H13C1J2C405z1J7C1z6C1J1C82z22C1z1J7C1J2C1J2C122z6C3z1C1z2C1z7C1H1C66z5J1z2C1z2J1C1J1C347",
      "z2C2J9z2C1H1J48z2J5C3z2J3C23z1C5333z16B1C6z15C11464z12C3J3C2496z5C59z7C556z1L3z4L484z1C1z5",
      "5J7z4C81z1C11z2C19627z2C1z4B4700z46C2z23C542z5C3z6C8B8C2z7C30z4C148z3C1979z55C4z50C8z1C14z",
      "1C22z5C1z15C1360z7C1z17C2z7C1z2C1z5C100z1C160z7C375z1C61z4C508z4C254z2C736z7C109z7C2203z26",
      "I507z5C789504z32B96C128B240C3600B192512z" ]

/-- The classes for breaks between the characters that users see. -/
def graphemeBreak : Classification :=
  ⟨decodeRuns 1 graphemeBreakText,
    [(["cr"], ["A"]), (["cn", "control"], ["B"]), (["ex", "extend"], ["C"]), (["l"], ["D"]),
     (["lf"], ["E"]), (["lv"], ["F"]), (["lvt"], ["G"]), (["pp", "prepend"], ["H"]),
     (["ri", "regionalindicator"], ["I"]), (["sm", "spacingmark"], ["J"]), (["t"], ["K"]),
     (["v"], ["L"]), (["zwj"], ["M"])]⟩

/-- The lengths of the runs of characters with one class, each with a letter for that class. -/
def wordBreakText : String :=
  String.join
    [ "10z1I2M1B18z1Q1z1C4z1P4z1K1z1L1z10N1J1K5z26A4z1E1z26A10z1M36z1A2z1F7z1A1z1J2z1A5z23A1z31A1",
      "z480A6z34A112D5A1z2A2z4A1K1A6z1A1J3A1z1A1z20A1z83A1z139A1z7D166A1z38A2z4A1z1A1J41A1K1A6z45",
      "D1z1D1z2D1z2D1z1D8z27G4z4G1A1J11z6N6z2K2z11D1z1F3z43A21D10N1z1N1K1z2A1D99A1z1A7D1N1z6D2A2D",
      "1z4D2A10N3A2z1A15z2A1D30A27D2z89A11D1A14z10N33A9D2A2z1K1z1A2z1D2z22A4D1A9D1A3D1A5D18z25A3D",
      "4z11A5z24A1z6A1z2N5z9D42A24D1N33D54A3D1A18D1A7D10A2D2z10N1z16A3D1z8A2z2A2z22A1z7A1z1A3z4A2",
      "z1D1A7D2z2D2z3D1A8z1D4z2A1z3A2D2z10N2A10z1A1z1D2z3D1z6A4z2A2z22A1z7A1z2A1z2A1z2A2z1D1z5D4z",
      "2D2z3D3z1D7z4A1z1A7z10N2D3A1D11z3D1z9A1z3A1z22A1z7A1z2A1z5A2z1D1A8D1z3D1z3D2z1A15z2A2D2z10",
      "N9z1A6D1z3D1z8A2z2A2z22A1z7A1z2A1z5A2z1D1A7D2z2D2z3D7z3D4z2A1z3A2D2z10N1z1A16z1D1A1z6A3z3A",
      "1z4A3z2A1z1A1z2A3z2A3z3A3z12A4z5D3z3D1z4D2z1A6z1D14z10N16z5D8A1z3A1z23A1z16A2z1D1A7D1z3D1z",
      "4D7z2D1z3A2z1A2z2A2D2z10N16z1A3D1z8A1z3A1z23A1z10A1z5A2z1D1A7D1z3D1z4D7z2D6z2A1z2A2D2z10N1",
      "z2A1D12z4D9A1z3A1z41A2D1A7D1z3D1z4D1A5z3A1D7z3A2D2z10N10z6A1z3D1z18A3z24A1z9A1z1A2z7A3z1D4",
      "z6D1z1D1z8D6z10N2z2D61z1D2z7D12z8D1z10N87z1D2z9D11z7D1z10N38z1A23z2D6z10N11z1D1z1D1z1D4z2D",
      "8A1z36A4z20D1z2D5A11D1z36D9z1D100z20D1z10N12z4D4z3D1z3D2z7D3z4D13z12D1z1D10N4D2z38A1z1A5z1",
      "A2z43A1z333A1z4A2z7A1z1A1z4A2z41A1z4A2z33A1z4A2z7A1z1A1z4A2z15A1z57A1z4A2z67A2z3D32z16A16z",
      "86A2z6A3z620A2z17A1Q26A5z75A3z11A7z18A4D9z19A3D11z18A2D12z13A1z3A1z2D64z32D9z1D2z10N33z3D1",
      "F1D10N6z89A7z5A2D34A1D1A5z70A10z31A1z12D4z12D10z10N128z11N37z23A5D57z10D1z29D2z1D10N6z10N2",
      "2z31D49z5D47A17D8A3z10N17z9D12z3D30A13D2A10N44A14D12z36A20D8z10N3z3A10N36A2z11A5z43A2z3A16",
      "z3D1z21D4A1D6A1D2A3D1A5z192A64D278A2z6A2z38A2z6A2z8A1z1A1z1A1z1A1z31A2z53A1z7A1z1A3z3A1z7A",
      "3z4A2z6A4z13A5z3A1z7A3z7Q1z3Q1z1D1R2F8z2L10z1L2z1J2M5F1E15z2E3z1K15z1E10z1Q5F1z10F1z1A13z1",
      "A16z13A51z33D17z1A4z1A2z10A1z1A3z5A6z1A1z1A1z1A1z4A1z11A2z4A5z5A4z1A17z41A813z52A1814z229A",
      "6z4A3D2A12z38A1z1A5z1A2z56A7z1A15z1D23A9z7A1z7A1z7A1z7A1z7A1z7A1z7A1z7A1z32D47z1A464z1Q4z1",
      "A36z6D1z5H5z2A92z2D2H3z91H1z4H5z43A1z94A17z32A48z16H208z47H1z88H27816z1165A67z46A2z269A3z1",
      "6A10N2A20z47A4D1z10D1z31A2D80A2D22z198A2z2A1z1A1z8A21z16A1D3A1D4A1D23A5D4z1D19z52A12z2D50A",
      "18D10z10N6z18D6A3z1A1z2A1D10N28A8D2z23A13D12z29A3z4D47A14D14z1A10N11z1D10z10N6z41A14D9z3A1",
      "D8A2D2z10N33z3D50z1D1z3D2z2D5z2D1z1D30z11A5D2z3A2D10z6A2z6A2z6A9z7A1z7A1z58A6z115A8D1z2D2z",
      "10N6z11172A12z23A4z49A8964z7A12z5A5z1G1D10G1z13G1z5G1z1G1z2G1z2G1z10G98A33z363A18z64A2z54A",
      "40z12A4z16D3z1J12z16D3z2E24z3E1K1z1L1z1K1J26z5A1z135A2z1F7z1L4z1K1z1L1z10N1J1K5z26A4z1E1z2",
      "6A11z56H2D31A3z6A2z6A2z6A2z3A28z3F4z12A1z26A1z19A1z2A1z15A2z14A34z123A69z53A136z1D130z29A3",
      "z49A15z1D31z32A13z30A5z38A5D5z30A2z36A4z8A1z5A42z158A2z10N6z36A4z36A4z40A8z52A12z11A1z15A1",
      "z7A1z2A1z11A1z15A1z7A1z2A3z52A12z311A9z22A10z8A24z6A1z42A1z9A69z6A2z1A1z44A1z2A3z1A2z23A10",
      "z23A9z31A65z19A1z2A10z22A10z26A70z56A6z2A64z1A3D1z2D5z4D4A1z3A1z29A2z3D4z1D32z29A3z29A35z8",
      "A1z28A2D25z54A10z22A10z19A13z18A110z73A55z51A13z51A13z36A4D8z10N6z10N28A3z5D1z23A250z42A1z",
      "2D3z2A16z3A55z4D29A10z1A8z22A11D31z18A4D42z21A27z23A9z3D53A15D31z10N1D2A2D1A9z4D45A11D2z1N",
      "4z1D10z1N2z25A7z10N6z3D36A14D1z10N4z1A2D1A8z35A1D2z1A9z3D48A14D4A4z4D1z2D10N1A1z1A35z18A1z",
      "25A12D6z1D2A1D62z7A1z1A1z4A1z15A1z10A7z47A12D5z10N6z4D1z8A2z2A2z22A1z7A1z2A1z5A1z2D1A7D2z2",
      "D2z3D2z1A6z1D5z5A2D2z7D3z5D11z10A1z1A2z1A1z38A1z1A9D1z1D2z1D1z4D1z5D1A1D1A13z2D29z53A18D4A",
      "5z10N4z1D3A30z48A20D2A1z1A8z10N166z47A7D2z9D23z4A2D34z48A17D3z1A11z10N38z43A13D1A7z10N6z20",
      "N57z15D4z10N198z44A15D101z64A10N21z8A2z1A2z8A1z2A1z24A6D1z2D2z4D1A1D1A2D12z10N70z8A2z39A7D",
      "2z7D1A1z1A1D27z1A10D40A7D1A4D8z1D8z1A11D46A16D3z1A18z73A199z33A15z10N6z9A1z37A8D1z8D1A15z1",
      "0N24z30A2z22D1z14D73z7A1z2A1z38A6D3z1D1z2D1z7D1A1D8z10N6z6A1z2A1z32A5D1z2D1z5D1A7z10N310z1",
      "9A4D9z2D1A1D13A1z34A7D3z5D13z10N1D85z1A79z922A102z111A17z196A2636z97A15z1072A16F1D6A15D10z",
      "3995A5z583A6841z30A18D10N1734z569A7z31A1z10N6z79A1z10N6z30A2z5D11z48A7D9z4A12z10N9z21A5z19",
      "A432z45A3z10N198z64A128z75A4z1D1A55D7z4D13A64z2A1z1A1D11z2D16382z4H1z7H1z2H1z1H287z3H50z1H",
      "14z4H2712z107A5z13A3z9A7z10A3z2D1z4F4172z10N518z46D2z23D542z5D3z6D8F8D2z7D30z4D148z3D443z8",
      "5A1z71A1z2A2z1A2z2A2z4A1z12A1z1A1z7A1z65A1z4A2z8A1z7A1z28A1z4A1z5A1z1A3z7A1z340A2z25A1z25A",
      "1z31A1z25A1z31A1z25A1z31A1z25A1z31A1z25A1z8A2z50N512z55D4z50D8z1D14z1D22z5D1z15D1104z31A6z",
      "6A213z7D1z17D2z7D1z2D1z5D5z62A33z1D112z45A3z7D7A2z10N4z1A321z30A1D17z44A4D10N470z28A4D10N2",
      "14z30A2D1A10N485z7A1z4A1z2A1z15A1z197A11z7D41z68A7D1A4z10N1190z4A1z27A1z2A1z1A2z1A1z10A1z4",
      "A1z1A1z1A6z1A4z1A1z1A1z1A1z3A1z2A1z1A2z1A1z1A1z1A1z1A1z1A1z2A1z1A2z4A1z7A1z4A1z4A1z1A1z10A",
      "1z17A5z3A1z5A1z17A628z26A6z26A6z26A92z26O507z5D2032z10N787463z1F30z96D128z240D196112z" ]

/-- The classes for breaks between words. -/
def wordBreak : Classification :=
  ⟨decodeRuns 1 wordBreakText,
    [(["le", "aletter"], ["A"]), (["cr"], ["B"]), (["dq", "doublequote"], ["C"]),
     (["extend"], ["D"]), (["ex", "extendnumlet"], ["E"]), (["fo", "format"], ["F"]),
     (["hl", "hebrewletter"], ["G"]), (["ka", "katakana"], ["H"]), (["lf"], ["I"]),
     (["ml", "midletter"], ["J"]), (["mn", "midnum"], ["K"]), (["mb", "midnumlet"], ["L"]),
     (["nl", "newline"], ["M"]), (["nu", "numeric"], ["N"]), (["ri", "regionalindicator"], ["O"]),
     (["sq", "singlequote"], ["P"]), (["wsegspace"], ["Q"]), (["zwj"], ["R"])]⟩

/-- The lengths of the runs of characters with one class, each with a letter for that class. -/
def sentenceBreakText : String :=
  String.join
    [ "9z1M1F2M1B18z1M1K1C4z3C2z2J1A1z10H2J3z1K1z26N1C1z1C3z26G1C1z1C7z1L26z1M9z1G1C1z1E7z1G4z1G1",
      "C4z23N1z7N24G1z8G1N1G1N1G1N1G1N1G1N1G1N1G1N1G1N1G1N1G1N1G1N1G1N1G1N1G1N1G1N1G1N1G1N1G1N1G1",
      "N1G1N1G1N1G1N1G1N1G1N1G1N1G1N1G1N1G1N2G1N1G1N1G1N1G1N1G1N1G1N1G1N1G1N2G1N1G1N1G1N1G1N1G1N1",
      "G1N1G1N1G1N1G1N1G1N1G1N1G1N1G1N1G1N1G1N1G1N1G1N1G1N1G1N1G1N1G1N1G1N1G1N1G2N1G1N1G1N3G2N1G1",
      "N1G2N1G3N2G4N1G2N1G3N3G2N1G2N1G1N1G1N1G2N1G1N2G1N1G2N1G3N1G1N1G2N2G1I1N3G4I2N1G2N1G2N1G1N1",
      "G1N1G1N1G1N1G1N1G1N1G1N1G1N2G1N1G1N1G1N1G1N1G1N1G1N1G1N1G1N1G1N2G2N1G1N1G3N1G1N1G1N1G1N1G1",
      "N1G1N1G1N1G1N1G1N1G1N1G1N1G1N1G1N1G1N1G1N1G1N1G1N1G1N1G1N1G1N1G1N1G1N1G1N1G1N1G1N1G1N1G1N1",
      "G1N1G1N1G1N7G2N1G2N2G1N1G4N1G1N1G1N1G1N1G1N69G1I36G7I2G4z12I14z5G7z1I1z1I17z112D1N1G1N1G1I",
      "1z1N1G2z4G1J1N6z1N1z3N1z1N1z2N1G17N1z9N35G1N2G3N3G1N1G1N1G1N1G1N1G1N1G1N1G1N1G1N1G1N1G1N1G",
      "1N1G1N5G1N1G1z1N1G2N2G51N48G1N1G1N1G1N1G1N1G1N1G1N1G1N1G1N1G1N1G1N1G1N1G1N1G1N1G1N1G1N1G1N",
      "1G1N1G1z7D1N1G1N1G1N1G1N1G1N1G1N1G1N1G1N1G1N1G1N1G1N1G1N1G1N1G1N1G1N1G1N1G1N1G1N1G1N1G1N1G",
      "1N1G1N1G1N1G1N1G1N1G1N1G1N1G2N1G1N1G1N1G1N1G1N1G1N1G1N2G1N1G1N1G1N1G1N1G1N1G1N1G1N1G1N1G1N",
      "1G1N1G1N1G1N1G1N1G1N1G1N1G1N1G1N1G1N1G1N1G1N1G1N1G1N1G1N1G1N1G1N1G1N1G1N1G1N1G1N1G1N1G1N1G",
      "1N1G1N1G1N1G1N1G1N1G1N1G1N1G1N1G1N1G1N1G1N1G1N1G1N1G1N1G1N1G1N1G1N1G1z38N2z1I3z1J2z41G1K7z",
      "45D1z1D1z2D1z2D1z1D8z27I4z5I12z6H6z2J2z11D1z1E3K43I21D10H1z2H1z2I1D99I1K1I7D1H1z6D2I2D1z4D",
      "2I10H3I2z1I3K12z1E1I1D30I27D2z89I11D1I14z10H33I9D2I2z1J1K1I2z1D2z22I4D1I9D1I3D1I5D9z1K1z1K",
      "3z2K1z25I3D4z11I5z24I1z6I1z2H5z9D42I24D1H33D54I3D1I18D1I7D10I2D2K10H1z16I3D1z8I2z2I2z22I1z",
      "7I1z1I3z4I2z1D1I7D2z2D2z3D1I8z1D4z2I1z3I2D2z10H2I10z1I1z1D2z3D1z6I4z2I2z22I1z7I1z2I1z2I1z2",
      "I2z1D1z5D4z2D2z3D3z1D7z4I1z1I7z10H2D3I1D11z3D1z9I1z3I1z22I1z7I1z2I1z5I2z1D1I8D1z3D1z3D2z1I",
      "15z2I2D2z10H9z1I6D1z3D1z8I2z2I2z22I1z7I1z2I1z5I2z1D1I7D2z2D2z3D7z3D4z2I1z3I2D2z10H1z1I16z1",
      "D1I1z6I3z3I1z4I3z2I1z1I1z2I3z2I3z3I3z12I4z5D3z3D1z4D2z1I6z1D14z10H16z5D8I1z3I1z23I1z16I2z1",
      "D1I7D1z3D1z4D7z2D1z3I2z1I2z2I2D2z10H16z1I3D1z8I1z3I1z23I1z10I1z5I2z1D1I7D1z3D1z4D7z2D6z2I1",
      "z2I2D2z10H1z2I1D12z4D9I1z3I1z41I2D1I7D1z3D1z4D1I5z3I1D7z3I2D2z10H10z6I1z3D1z18I3z24I1z9I1z",
      "1I2z7I3z1D4z6D1z1D1z8D6z10H2z2D13z48I1D2I7D5z7I8D1z10H39z2I1z1I1z5I1z24I1z1I1z10I1D2I9D1I2",
      "z5I1z1I1z7D1z10H2z4I32z1I23z2D6z10H11z1D1z1D1z1D4C2D8I1z36I4z20D1z2D5I11D1z36D9z1D57z43I20",
      "D1I10H2K4z6I4D4I3D1I3D2I7D3I4D13I12D1I1D10H4D2z38N1z1N5z1N2z43I1z1G332I1z4I2z7I1z1I1z4I2z4",
      "1I1z4I2z33I1z4I2z7I1z1I1z4I2z15I1z57I1z4I2z67I2z3D2z1K4z2K23z16I16z86N2z6G3z620I1z1K17I1M2",
      "6I2C3z75I3z11I7z18I4D9z19I3D2K9z18I2D12z13I1z3I1z2D12z52I32D2K1z1I4z1I1D2z10H24z1J1K4z1J1K",
      "1z3D1E1D10H6z89I7z5I2D34I1D1I5z70I10z31I1z12D4z12D8z2K10H30I2z5I11z44I4z26I6z11H37z23I5D4z",
      "53I10D1z29D2z1D10H6z10H13z1I4K4z31D49z5D47I17D8I1z2K10H2K2z2K11z9D9z3K3D30I13D2I10H44I14D1",
      "2z36I20D3z2K3z10H3z3I10H36I2K9G1N1G5z43I2z3I16z3D1z21D4I1D6I1D2I3D1I5z192G64D1N1G1N1G1N1G1",
      "N1G1N1G1N1G1N1G1N1G1N1G1N1G1N1G1N1G1N1G1N1G1N1G1N1G1N1G1N1G1N1G1N1G1N1G1N1G1N1G1N1G1N1G1N1",
      "G1N1G1N1G1N1G1N1G1N1G1N1G1N1G1N1G1N1G1N1G1N1G1N1G1N1G1N1G1N1G1N1G1N1G1N1G1N1G1N1G1N1G1N1G1",
      "N1G1N1G1N1G1N1G1N1G1N1G1N1G1N1G1N1G1N1G1N1G1N1G1N1G1N1G1N1G1N1G1N1G1N1G1N1G1N1G1N1G1N1G1N1",
      "G1N1G1N1G1N1G1N9G1N1G1N1G1N1G1N1G1N1G1N1G1N1G1N1G1N1G1N1G1N1G1N1G1N1G1N1G1N1G1N1G1N1G1N1G1",
      "N1G1N1G1N1G1N1G1N1G1N1G1N1G1N1G1N1G1N1G1N1G1N1G1N1G1N1G1N1G1N1G1N1G1N1G1N1G1N1G1N1G1N1G1N1",
      "G1N1G1N1G1N1G1N1G1N1G1N1G1N1G1N9G8N6G2z6N2z8G8N8G8N6G2z6N2z8G1z1N1z1N1z1N1z1N8G8N14G2z8G8N",
      "8G8N8G8N5G1z2G5N1z1G3z3G1z2G5N3z4G2z2G4N4z8G5N5z3G1z2G5N3z11M1E2D2E3z2J3z8C4z1A3z2L5E1M9z2",
      "C1z2K7z2C3K21z1M5E1z10E1z1G11z2C1G13z2C1z13G51z33D17z1N4z1N2z1G3N2G3N1G1z1N3z5N6z1N1z1N1z1",
      "N1z4N1z1G4N1G4I1G2z2G2N5z1N4G4z1G17z16N16G3I1N1G4I383z4C29z2C395z26N26G625z6C7z14C79z2C31z",
      "10C403z22C63z4C32z2C514z48N48G1N1G3N2G1N1G1N1G1N1G4N1G1N2G1N8G3N1G1N1G1N1G1N1G1N1G1N1G1N1G",
      "1N1G1N1G1N1G1N1G1N1G1N1G1N1G1N1G1N1G1N1G1N1G1N1G1N1G1N1G1N1G1N1G1N1G1N1G1N1G1N1G1N1G1N1G1N",
      "1G1N1G1N1G1N1G1N1G1N1G1N1G1N1G1N1G1N1G1N1G1N1G1N1G1N1G1N1G1N1G1N1G1N1G1N1G1N1G1N2G6z1N1G1N",
      "1G3D1N1G5z3K4z38G1z1G5z1G2z56I7z1I15z1D23I9z7I1z7I1z7I1z7I1z7I1z7I1z7I1z7I1z32D14C14z2C2z1",
      "0C4z1K1I12z1K5z1C16z2K8C419z1M1J1K2z3I10C2z8C1z3C1z9I6D1z5I2z5I4z86I2z2D2z3I1z90I1z4I5z43I",
      "1z94I17z32I48z16I512z6592I64z22157I67z46I1z1K269I1z2K16I10H2I20z1N1G1N1G1N1G1N1G1N1G1N1G1N",
      "1G1N1G1N1G1N1G1N1G1N1G1N1G1N1G1N1G1N1G1N1G1N1G1N1G1N1G1N1G1N1G1N1G1I4D1z10D1z1I1N1G1N1G1N1",
      "G1N1G1N1G1N1G1N1G1N1G1N1G1N1G1N1G1N1G1N1G1N3G2D80I2D1z1K3z1K31z9I2z1N1G1N1G1N1G1N1G1N1G1N1",
      "G1N3G1N1G1N1G1N1G1N1G1N1G1N1G1N1G1N1G1N1G1N1G1N1G1N1G1N1G1N1G1N1G1N1G1N1G1N1G1N1G1N1G1N1G1",
      "N1G1N1G1N1G1N1G1N1G1N1G1N1G1N1G1N1G1N10G1N1G1N1G2N1G1N1G1N1G1N1G1N1G1I2z1N1G1N1G1I1N1G1N3G",
      "1N1G1N1G1N1G1N1G1N1G1N1G1N1G1N1G1N1G1N1G5N1G5N1G1N1G1N1G1N1G1N1G1N1G1N1G1N1G4N1G1N1G2N1G2z",
      "1N1G1z1G1z1G1N1G1N1G1N1G1N21z3G1N1G1I3G7I1D3I1D4I1D23I5D4z1D19z52I2z2K8z2D50I18D8z2K10H6z1",
      "8D6I3z1I1z2I1D10H28I8D1z1K23I13D12z29I3z4D47I14D7z2K5z1I10H6z5I1D10I10H5I1z41I14D9z3I1D8I2",
      "D2z10H3z3K23I3z1I3D50I1D1I3D2I2D5I2D1I1D1I24z3I2z11I5D2K3I2D10z6I2z6I2z6I9z7I1z7I1z43G1z14",
      "G6z80G35I8D1K2D2z10H6z11172I12z23I4z49I8452z366I2z106I38z7G12z5G5z1I1D10I1z13I1z5I1z1I1z2I",
      "1z2I1z108I33z363I2C16z64I2z54I40z12I4z16D2J1K2J2K2C7z16D1z2J2z16C2z2C7z2J1A1z2J2K1J6C4z1J1",
      "2z5I1z135I2z1E1z1K6z2C2z2J1A1z10H2J3z1K1z26N1C1z1C3z26G1C1z1C1z2C1K2C1J1z56I2D31I3z6I2z6I2",
      "z6I2z3I28z3E4z12I1z26I1z19I1z2I1z15I2z14I34z123I69z53I136z1D130z29I3z49I15z1D31z32I13z30I5",
      "z38I5D5z30I2z36I4z8I1z5I42z40N40G78I2z10H6z36N4z36G4z40I8z52I12z11N1z15N1z7N1z2N1z11G1z15G",
      "1z7G1z2G3z52I12z311I9z22I10z8I24z1G2I3G1z42G1z9G69z6I2z1I1z44I1z2I3z1I2z23I10z23I9z31I65z1",
      "9I1z2I10z22I10z26I70z56I6z2I64z1I3D1z2D5z4D4I1z3I1z29I2z3D4z1D22z2K8z29I3z29I35z8I1z28I2D2",
      "5z54I10z22I10z19I13z18I110z73I55z51N13z51G13z36I4D8z10H6z10H6I22N3z5D1z1I22G250z42I1z2D3z2",
      "I16z3I55z4D29I10z1I8z22I11D4z5K22z18I4D4K38z21I27z23I9z3D53I15D2K29z10H1D2I2D1I9z4D45I11D2",
      "z1H4K1D10z1H2z25I7z10H6z3D36I14D1z10H1z3K1I2D1I8z35I1D2z1I9z3D48I14D4I2K2z4D1K2D10H1I1z1I1",
      "z2K32z18I1z25I12D2K1z2K1z1D2I1D62z7I1z1I1z4I1z15I1z10I1K6z47I12D5z10H6z4D1z8I2z2I2z22I1z7I",
      "1z2I1z5I1z2D1I7D2z2D2z3D2z1I6z1D5z5I2D2z7D3z5D11z10I1z1I2z1I1z38I1z1I9D1z1D2z1D1z4D1z5D1I1",
      "D1I2K11z2D29z53I18D4I2K3z10H4z1D3I30z48I20D2I1z1I8z10H166z47I7D2z9D1z2K5z15K4I2D34z48I17D2",
      "K1z1I11z10H38z43I13D1I7z10H6z20H28z27I2z15D4z10H2z3K1z7I185z44I15D101z32N32G10H21z8I2z1I2z",
      "8I1z2I1z24I6D1z2D2z4D1I1D1I2D1K1z1K9z10H70z8I2z39I7D2z7D1I1z1I1D27z1I10D40I7D1I4D3z2K3z1D8",
      "z1I11D46I16D1z2K1I18z73I199z33I15z10H6z9I1z37I8D1z8D1I2K13z10H24z30I2z22D1z14D73z7I1z2I1z3",
      "8I6D3z1D1z2D1z7D1I1D8z10H6z6I1z2I1z32I5D1z2D1z5D1I7z10H310z19I4D2K7z2D1I1D13I1z34I7D3z5D2K",
      "11z10H1D85z1I79z922I102z111I17z196I2636z97I15z1072I16E1D6I15D10z3995I5z583I6841z30I18D10H1",
      "734z569I7z31I1z10H4z2K79I1z10H6z30I2z5D1K10z48I7D2K7z4I1K11z10H9z21I5z19I432z45I1z2K10H198",
      "z32N32G24z1K103z75I4z1D1I55D7z4D13I64z2I1z1I1D11z2D14z6136I8z1238I41z10I8935z4I1z7I1z2I1z2",
      "91I15z1I29z3I2z1I14z4I8z396I2308z107I5z13I3z9I7z10I3z2D1K4E4172z10H518z46D2z23D542z5D3z6D8",
      "E8D2z7D30z4D148z3D443z26N26G26N7G1z18G26N26G1N1z2N2z1N2z2N2z4N1z8N4G1z1G1z7G1z11G26N26G2N1",
      "z4N2z8N1z7N1z26G2N1z4N1z5N1z1N3z7N1z26G26N26G26N26G26N26G26N26G26N26G26N28G2z25N1z25G1z6G2",
      "5N1z25G1z6G25N1z25G1z6G25N1z25G1z6G25N1z25G1z6G1N1G2z50H512z55D4z50D8z1D14z1D3z1K18z5D1z15",
      "D1104z10G1I20G6z6G213z7D1z17D2z7D1z2D1z5D5z62G33z1D112z45I3z7D7I2z10H4z1I321z30I1D17z44I4D",
      "10H470z28I4D10H214z30I2D1I10H485z7I1z4I1z2I1z15I1z197I11z7D41z34N34G7D1I4z10H1190z4I1z27I1",
      "z2I1z1I2z1I1z10I1z4I1z1I1z1I6z1I4z1I1z1I1z1I1z3I1z2I1z1I2z1I1z1I1z1I1z1I1z1I1z2I1z1I2z4I1z",
      "7I1z4I1z4I1z1I1z10I1z17I5z3I1z5I1z17I628z26N6z26N6z26N1260z3C1399z10H1030z42720I32z4154I6z",
      "222I2z5762I14z7473I15z622I2466z542I1506z4939I5z4192I711761z1E30z96D128z240D196112z" ]

/-- The classes for breaks between sentences. -/
def sentenceBreak : Classification :=
  ⟨decodeRuns 1 sentenceBreakText,
    [(["at", "aterm"], ["A"]), (["cr"], ["B"]), (["cl", "close"], ["C"]), (["ex", "extend"], ["D"]),
     (["fo", "format"], ["E"]), (["lf"], ["F"]), (["lo", "lower"], ["G"]),
     (["nu", "numeric"], ["H"]), (["le", "oletter"], ["I"]), (["sc", "scontinue"], ["J"]),
     (["st", "sterm"], ["K"]), (["se", "sep"], ["L"]), (["sp"], ["M"]), (["up", "upper"], ["N"])]⟩

end MergeTrain.Unicode
