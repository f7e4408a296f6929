import CodeExtension.CodeTable

/-! The right half of ISO 8859-7, Latin and Greek. -/
namespace CodeExtension.Standard

def latinGreekColumns : List Column := [
  ⟨0x00A0, 0x00A0_2018_2019_00A3_20AC_20AF_00A6_00A7_00A8_00A9_037A_00AB_00AC_00AD_0000_2015⟩,
  ⟨0x00B0, 0x00B0_00B1_00B2_00B3_0384_0385_0386_00B7_0388_0389_038A_00BB_038C_00BD_038E_038F⟩,
  ⟨0x00C0, 0x0390_0391_0392_0393_0394_0395_0396_0397_0398_0399_039A_039B_039C_039D_039E_039F⟩,
  ⟨0x00D0, 0x03A0_03A1_0000_03A3_03A4_03A5_03A6_03A7_03A8_03A9_03AA_03AB_03AC_03AD_03AE_03AF⟩,
  ⟨0x00E0, 0x03B0_03B1_03B2_03B3_03B4_03B5_03B6_03B7_03B8_03B9_03BA_03BB_03BC_03BD_03BE_03BF⟩,
  ⟨0x00F0, 0x03C0_03C1_03C2_03C3_03C4_03C5_03C6_03C7_03C8_03C9_03CA_03CB_03CC_03CD_03CE_0000⟩]

def latinGreek : CodeTable := .ofColumns latinGreekColumns

end CodeExtension.Standard
