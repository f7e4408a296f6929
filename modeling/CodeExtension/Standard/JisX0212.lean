import CodeExtension.CodeTable

/-! JIS X 0212, the supplementary Japanese set, with the accented Latin letters and Greek. -/
namespace CodeExtension.Standard

def jisX0212Columns : List Column := [
  ⟨0x2220, 0x0000_0000_0000_0000_0000_0000_0000_0000_0000_0000_0000_0000_0000_0000_0000_02D8⟩,
  ⟨0x2230, 0x02C7_00B8_02D9_02DD_00AF_02DB_02DA_FF5E_0384_0385_0000_0000_0000_0000_0000_0000⟩,
  ⟨0x2240, 0x0000_0000_00A1_00A6_00BF_0000_0000_0000_0000_0000_0000_0000_0000_0000_0000_0000⟩,
  ⟨0x2260, 0x0000_0000_0000_0000_0000_0000_0000_0000_0000_0000_0000_00BA_00AA_00A9_00AE_2122⟩,
  ⟨0x2270, 0x00A4_2116_0000_0000_0000_0000_0000_0000_0000_0000_0000_0000_0000_0000_0000_0000⟩,
  ⟨0x2660, 0x0000_0386_0388_0389_038A_03AA_0000_038C_0000_038E_03AB_0000_038F_0000_0000_0000⟩,
  ⟨0x2670, 0x0000_03AC_03AD_03AE_03AF_03CA_0390_03CC_03C2_03CD_03CB_03B0_03CE_0000_0000_0000⟩,
  ⟨0x2740, 0x0000_0000_0402_0403_0404_0405_0406_0407_0408_0409_040A_040B_040C_040E_040F_0000⟩,
  ⟨0x2770, 0x0000_0000_0452_0453_0454_0455_0456_0457_0458_0459_045A_045B_045C_045E_045F_0000⟩,
  ⟨0x2920, 0x0000_00C6_0110_0000_0126_0000_0132_0000_0141_013F_0000_014A_00D8_0152_0000_0166⟩,
  ⟨0x2930, 0x00DE_0000_0000_0000_0000_0000_0000_0000_0000_0000_0000_0000_0000_0000_0000_0000⟩,
  ⟨0x2940, 0x0000_00E6_0111_00F0_0127_0131_0133_0138_0142_0140_0149_014B_00F8_0153_00DF_0167⟩,
  ⟨0x2950, 0x00FE_0000_0000_0000_0000_0000_0000_0000_0000_0000_0000_0000_0000_0000_0000_0000⟩,
  ⟨0x2A20, 0x0000_00C1_00C0_00C4_00C2_0102_01CD_0100_0104_00C5_00C3_0106_0108_010C_00C7_010A⟩,
  ⟨0x2A30, 0x010E_00C9_00C8_00CB_00CA_011A_0116_0112_0118_0000_011C_011E_0122_0120_0124_00CD⟩,
  ⟨0x2A40, 0x00CC_00CF_00CE_01CF_0130_012A_012E_0128_0134_0136_0139_013D_013B_0143_0147_0145⟩,
  ⟨0x2A50, 0x00D1_00D3_00D2_00D6_00D4_01D1_0150_014C_00D5_0154_0158_0156_015A_015C_0160_015E⟩,
  ⟨0x2A60, 0x0164_0162_00DA_00D9_00DC_00DB_016C_01D3_0170_016A_0172_016E_0168_01D7_01DB_01D9⟩,
  ⟨0x2A70, 0x01D5_0174_00DD_0178_0176_0179_017D_017B_0000_0000_0000_0000_0000_0000_0000_0000⟩,
  ⟨0x2B20, 0x0000_00E1_00E0_00E4_00E2_0103_01CE_0101_0105_00E5_00E3_0107_0109_010D_00E7_010B⟩,
  ⟨0x2B30, 0x010F_00E9_00E8_00EB_00EA_011B_0117_0113_0119_01F5_011D_011F_0000_0121_0125_00ED⟩,
  ⟨0x2B40, 0x00EC_00EF_00EE_01D0_0000_012B_012F_0129_0135_0137_013A_013E_013C_0144_0148_0146⟩,
  ⟨0x2B50, 0x00F1_00F3_00F2_00F6_00F4_01D2_0151_014D_00F5_0155_0159_0157_015B_015D_0161_015F⟩,
  ⟨0x2B60, 0x0165_0163_00FA_00F9_00FC_00FB_016D_01D4_0171_016B_0173_016F_0169_01D8_01DC_01DA⟩,
  ⟨0x2B70, 0x01D6_0175_00FD_00FF_0177_017A_017E_017C_0000_0000_0000_0000_0000_0000_0000_0000⟩,
  ⟨0x3020, 0x0000_4E02_4E04_4E05_4E0C_4E12_4E1F_4E23_4E24_4E28_4E2B_4E2E_4E2F_4E30_4E35_4E40⟩,
  ⟨0x3030, 0x4E41_4E44_4E47_4E51_4E5A_4E5C_4E63_4E68_4E69_4E74_4E75_4E79_4E7F_4E8D_4E96_4E97⟩,
  ⟨0x3040, 0x4E9D_4EAF_4EB9_4EC3_4ED0_4EDA_4EDB_4EE0_4EE1_4EE2_4EE8_4EEF_4EF1_4EF3_4EF5_4EFD⟩,
  ⟨0x3050, 0x4EFE_4EFF_4F00_4F02_4F03_4F08_4F0B_4F0C_4F12_4F15_4F16_4F17_4F19_4F2E_4F31_4F60⟩,
  ⟨0x3060, 0x4F33_4F35_4F37_4F39_4F3B_4F3E_4F40_4F42_4F48_4F49_4F4B_4F4C_4F52_4F54_4F56_4F58⟩,
  ⟨0x3070, 0x4F5F_4F63_4F6A_4F6C_4F6E_4F71_4F77_4F78_4F79_4F7A_4F7D_4F7E_4F81_4F82_4F84_0000⟩,
  ⟨0x3120, 0x0000_4F85_4F89_4F8A_4F8C_4F8E_4F90_4F92_4F93_4F94_4F97_4F99_4F9A_4F9E_4F9F_4FB2⟩,
  ⟨0x3130, 0x4FB7_4FB9_4FBB_4FBC_4FBD_4FBE_4FC0_4FC1_4FC5_4FC6_4FC8_4FC9_4FCB_4FCC_4FCD_4FCF⟩,
  ⟨0x3140, 0x4FD2_4FDC_4FE0_4FE2_4FF0_4FF2_4FFC_4FFD_4FFF_5000_5001_5004_5007_500A_500C_500E⟩,
  ⟨0x3150, 0x5010_5013_5017_5018_501B_501C_501D_501E_5022_5027_502E_5030_5032_5033_5035_5040⟩,
  ⟨0x3160, 0x5041_5042_5045_5046_504A_504C_504E_5051_5052_5053_5057_5059_505F_5060_5062_5063⟩,
  ⟨0x3170, 0x5066_5067_506A_506D_5070_5071_503B_5081_5083_5084_5086_508A_508E_508F_5090_0000⟩,
  ⟨0x3220, 0x0000_5092_5093_5094_5096_509B_509C_509E_509F_50A0_50A1_50A2_50AA_50AF_50B0_50B9⟩,
  ⟨0x3230, 0x50BA_50BD_50C0_50C3_50C4_50C7_50CC_50CE_50D0_50D3_50D4_50D8_50DC_50DD_50DF_50E2⟩,
  ⟨0x3240, 0x50E4_50E6_50E8_50E9_50EF_50F1_50F6_50FA_50FE_5103_5106_5107_5108_510B_510C_510D⟩,
  ⟨0x3250, 0x510E_50F2_5110_5117_5119_511B_511C_511D_511E_5123_5127_5128_512C_512D_512F_5131⟩,
  ⟨0x3260, 0x5133_5134_5135_5138_5139_5142_514A_514F_5153_5155_5157_5158_515F_5164_5166_517E⟩,
  ⟨0x3270, 0x5183_5184_518B_518E_5198_519D_51A1_51A3_51AD_51B8_51BA_51BC_51BE_51BF_51C2_0000⟩,
  ⟨0x3320, 0x0000_51C8_51CF_51D1_51D2_51D3_51D5_51D8_51DE_51E2_51E5_51EE_51F2_51F3_51F4_51F7⟩,
  ⟨0x3330, 0x5201_5202_5205_5212_5213_5215_5216_5218_5222_5228_5231_5232_5235_523C_5245_5249⟩,
  ⟨0x3340, 0x5255_5257_5258_525A_525C_525F_5260_5261_5266_526E_5277_5278_5279_5280_5282_5285⟩,
  ⟨0x3350, 0x528A_528C_5293_5295_5296_5297_5298_529A_529C_52A4_52A5_52A6_52A7_52AF_52B0_52B6⟩,
  ⟨0x3360, 0x52B7_52B8_52BA_52BB_52BD_52C0_52C4_52C6_52C8_52CC_52CF_52D1_52D4_52D6_52DB_52DC⟩,
  ⟨0x3370, 0x52E1_52E5_52E8_52E9_52EA_52EC_52F0_52F1_52F4_52F6_52F7_5300_5303_530A_530B_0000⟩,
  ⟨0x3420, 0x0000_530C_5311_5313_5318_531B_531C_531E_531F_5325_5327_5328_5329_532B_532C_532D⟩,
  ⟨0x3430, 0x5330_5332_5335_533C_533D_533E_5342_534C_534B_5359_535B_5361_5363_5365_536C_536D⟩,
  ⟨0x3440, 0x5372_5379_537E_5383_5387_5388_538E_5393_5394_5399_539D_53A1_53A4_53AA_53AB_53AF⟩,
  ⟨0x3450, 0x53B2_53B4_53B5_53B7_53B8_53BA_53BD_53C0_53C5_53CF_53D2_53D3_53D5_53DA_53DD_53DE⟩,
  ⟨0x3460, 0x53E0_53E6_53E7_53F5_5402_5413_541A_5421_5427_5428_542A_542F_5431_5434_5435_5443⟩,
  ⟨0x3470, 0x5444_5447_544D_544F_545E_5462_5464_5466_5467_5469_546B_546D_546E_5474_547F_0000⟩,
  ⟨0x3520, 0x0000_5481_5483_5485_5488_5489_548D_5491_5495_5496_549C_549F_54A1_54A6_54A7_54A9⟩,
  ⟨0x3530, 0x54AA_54AD_54AE_54B1_54B7_54B9_54BA_54BB_54BF_54C6_54CA_54CD_54CE_54E0_54EA_54EC⟩,
  ⟨0x3540, 0x54EF_54F6_54FC_54FE_54FF_5500_5501_5505_5508_5509_550C_550D_550E_5515_552A_552B⟩,
  ⟨0x3550, 0x5532_5535_5536_553B_553C_553D_5541_5547_5549_554A_554D_5550_5551_5558_555A_555B⟩,
  ⟨0x3560, 0x555E_5560_5561_5564_5566_557F_5581_5582_5586_5588_558E_558F_5591_5592_5593_5594⟩,
  ⟨0x3570, 0x5597_55A3_55A4_55AD_55B2_55BF_55C1_55C3_55C6_55C9_55CB_55CC_55CE_55D1_55D2_0000⟩,
  ⟨0x3620, 0x0000_55D3_55D7_55D8_55DB_55DE_55E2_55E9_55F6_55FF_5605_5608_560A_560D_560E_560F⟩,
  ⟨0x3630, 0x5610_5611_5612_5619_562C_5630_5633_5635_5637_5639_563B_563C_563D_563F_5640_5641⟩,
  ⟨0x3640, 0x5643_5644_5646_5649_564B_564D_564F_5654_565E_5660_5661_5662_5663_5666_5669_566D⟩,
  ⟨0x3650, 0x566F_5671_5672_5675_5684_5685_5688_568B_568C_5695_5699_569A_569D_569E_569F_56A6⟩,
  ⟨0x3660, 0x56A7_56A8_56A9_56AB_56AC_56AD_56B1_56B3_56B7_56BE_56C5_56C9_56CA_56CB_56CF_56D0⟩,
  ⟨0x3670, 0x56CC_56CD_56D9_56DC_56DD_56DF_56E1_56E4_56E5_56E6_56E7_56E8_56F1_56EB_56ED_0000⟩,
  ⟨0x3720, 0x0000_56F6_56F7_5701_5702_5707_570A_570C_5711_5715_571A_571B_571D_5720_5722_5723⟩,
  ⟨0x3730, 0x5724_5725_5729_572A_572C_572E_572F_5733_5734_573D_573E_573F_5745_5746_574C_574D⟩,
  ⟨0x3740, 0x5752_5762_5765_5767_5768_576B_576D_576E_576F_5770_5771_5773_5774_5775_5777_5779⟩,
  ⟨0x3750, 0x577A_577B_577C_577E_5781_5783_578C_5794_5797_5799_579A_579C_579D_579E_579F_57A1⟩,
  ⟨0x3760, 0x5795_57A7_57A8_57A9_57AC_57B8_57BD_57C7_57C8_57CC_57CF_57D5_57DD_57DE_57E4_57E6⟩,
  ⟨0x3770, 0x57E7_57E9_57ED_57F0_57F5_57F6_57F8_57FD_57FE_57FF_5803_5804_5808_5809_57E1_0000⟩,
  ⟨0x3820, 0x0000_580C_580D_581B_581E_581F_5820_5826_5827_582D_5832_5839_583F_5849_584C_584D⟩,
  ⟨0x3830, 0x584F_5850_5855_585F_5861_5864_5867_5868_5878_587C_587F_5880_5881_5887_5888_5889⟩,
  ⟨0x3840, 0x588A_588C_588D_588F_5890_5894_5896_589D_58A0_58A1_58A2_58A6_58A9_58B1_58B2_58C4⟩,
  ⟨0x3850, 0x58BC_58C2_58C8_58CD_58CE_58D0_58D2_58D4_58D6_58DA_58DD_58E1_58E2_58E9_58F3_5905⟩,
  ⟨0x3860, 0x5906_590B_590C_5912_5913_5914_8641_591D_5921_5923_5924_5928_592F_5930_5933_5935⟩,
  ⟨0x3870, 0x5936_593F_5943_5946_5952_5953_5959_595B_595D_595E_595F_5961_5963_596B_596D_0000⟩,
  ⟨0x3920, 0x0000_596F_5972_5975_5976_5979_597B_597C_598B_598C_598E_5992_5995_5997_599F_59A4⟩,
  ⟨0x3930, 0x59A7_59AD_59AE_59AF_59B0_59B3_59B7_59BA_59BC_59C1_59C3_59C4_59C8_59CA_59CD_59D2⟩,
  ⟨0x3940, 0x59DD_59DE_59DF_59E3_59E4_59E7_59EE_59EF_59F1_59F2_59F4_59F7_5A00_5A04_5A0C_5A0D⟩,
  ⟨0x3950, 0x5A0E_5A12_5A13_5A1E_5A23_5A24_5A27_5A28_5A2A_5A2D_5A30_5A44_5A45_5A47_5A48_5A4C⟩,
  ⟨0x3960, 0x5A50_5A55_5A5E_5A63_5A65_5A67_5A6D_5A77_5A7A_5A7B_5A7E_5A8B_5A90_5A93_5A96_5A99⟩,
  ⟨0x3970, 0x5A9C_5A9E_5A9F_5AA0_5AA2_5AA7_5AAC_5AB1_5AB2_5AB3_5AB5_5AB8_5ABA_5ABB_5ABF_0000⟩,
  ⟨0x3A20, 0x0000_5AC4_5AC6_5AC8_5ACF_5ADA_5ADC_5AE0_5AE5_5AEA_5AEE_5AF5_5AF6_5AFD_5B00_5B01⟩,
  ⟨0x3A30, 0x5B08_5B17_5B34_5B19_5B1B_5B1D_5B21_5B25_5B2D_5B38_5B41_5B4B_5B4C_5B52_5B56_5B5E⟩,
  ⟨0x3A40, 0x5B68_5B6E_5B6F_5B7C_5B7D_5B7E_5B7F_5B81_5B84_5B86_5B8A_5B8E_5B90_5B91_5B93_5B94⟩,
  ⟨0x3A50, 0x5B96_5BA8_5BA9_5BAC_5BAD_5BAF_5BB1_5BB2_5BB7_5BBA_5BBC_5BC0_5BC1_5BCD_5BCF_5BD6⟩,
  ⟨0x3A60, 0x5BD7_5BD8_5BD9_5BDA_5BE0_5BEF_5BF1_5BF4_5BFD_5C0C_5C17_5C1E_5C1F_5C23_5C26_5C29⟩,
  ⟨0x3A70, 0x5C2B_5C2C_5C2E_5C30_5C32_5C35_5C36_5C59_5C5A_5C5C_5C62_5C63_5C67_5C68_5C69_0000⟩,
  ⟨0x3B20, 0x0000_5C6D_5C70_5C74_5C75_5C7A_5C7B_5C7C_5C7D_5C87_5C88_5C8A_5C8F_5C92_5C9D_5C9F⟩,
  ⟨0x3B30, 0x5CA0_5CA2_5CA3_5CA6_5CAA_5CB2_5CB4_5CB5_5CBA_5CC9_5CCB_5CD2_5CDD_5CD7_5CEE_5CF1⟩,
  ⟨0x3B40, 0x5CF2_5CF4_5D01_5D06_5D0D_5D12_5D2B_5D23_5D24_5D26_5D27_5D31_5D34_5D39_5D3D_5D3F⟩,
  ⟨0x3B50, 0x5D42_5D43_5D46_5D48_5D55_5D51_5D59_5D4A_5D5F_5D60_5D61_5D62_5D64_5D6A_5D6D_5D70⟩,
  ⟨0x3B60, 0x5D79_5D7A_5D7E_5D7F_5D81_5D83_5D88_5D8A_5D92_5D93_5D94_5D95_5D99_5D9B_5D9F_5DA0⟩,
  ⟨0x3B70, 0x5DA7_5DAB_5DB0_5DB4_5DB8_5DB9_5DC3_5DC7_5DCB_5DD0_5DCE_5DD8_5DD9_5DE0_5DE4_0000⟩,
  ⟨0x3C20, 0x0000_5DE9_5DF8_5DF9_5E00_5E07_5E0D_5E12_5E14_5E15_5E18_5E1F_5E20_5E2E_5E28_5E32⟩,
  ⟨0x3C30, 0x5E35_5E3E_5E4B_5E50_5E49_5E51_5E56_5E58_5E5B_5E5C_5E5E_5E68_5E6A_5E6B_5E6C_5E6D⟩,
  ⟨0x3C40, 0x5E6E_5E70_5E80_5E8B_5E8E_5EA2_5EA4_5EA5_5EA8_5EAA_5EAC_5EB1_5EB3_5EBD_5EBE_5EBF⟩,
  ⟨0x3C50, 0x5EC6_5ECC_5ECB_5ECE_5ED1_5ED2_5ED4_5ED5_5EDC_5EDE_5EE5_5EEB_5F02_5F06_5F07_5F08⟩,
  ⟨0x3C60, 0x5F0E_5F19_5F1C_5F1D_5F21_5F22_5F23_5F24_5F28_5F2B_5F2C_5F2E_5F30_5F34_5F36_5F3B⟩,
  ⟨0x3C70, 0x5F3D_5F3F_5F40_5F44_5F45_5F47_5F4D_5F50_5F54_5F58_5F5B_5F60_5F63_5F64_5F67_0000⟩,
  ⟨0x3D20, 0x0000_5F6F_5F72_5F74_5F75_5F78_5F7A_5F7D_5F7E_5F89_5F8D_5F8F_5F96_5F9C_5F9D_5FA2⟩,
  ⟨0x3D30, 0x5FA7_5FAB_5FA4_5FAC_5FAF_5FB0_5FB1_5FB8_5FC4_5FC7_5FC8_5FC9_5FCB_5FD0_5FD1_5FD2⟩,
  ⟨0x3D40, 0x5FD3_5FD4_5FDE_5FE1_5FE2_5FE8_5FE9_5FEA_5FEC_5FED_5FEE_5FEF_5FF2_5FF3_5FF6_5FFA⟩,
  ⟨0x3D50, 0x5FFC_6007_600A_600D_6013_6014_6017_6018_601A_601F_6024_602D_6033_6035_6040_6047⟩,
  ⟨0x3D60, 0x6048_6049_604C_6051_6054_6056_6057_605D_6061_6067_6071_607E_607F_6082_6086_6088⟩,
  ⟨0x3D70, 0x608A_608E_6091_6093_6095_6098_609D_609E_60A2_60A4_60A5_60A8_60B0_60B1_60B7_0000⟩,
  ⟨0x3E20, 0x0000_60BB_60BE_60C2_60C4_60C8_60C9_60CA_60CB_60CE_60CF_60D4_60D5_60D9_60DB_60DD⟩,
  ⟨0x3E30, 0x60DE_60E2_60E5_60F2_60F5_60F8_60FC_60FD_6102_6107_610A_610C_6110_6111_6112_6113⟩,
  ⟨0x3E40, 0x6114_6116_6117_6119_611C_611E_6122_612A_612B_6130_6131_6135_6136_6137_6139_6141⟩,
  ⟨0x3E50, 0x6145_6146_6149_615E_6160_616C_6172_6178_617B_617C_617F_6180_6181_6183_6184_618B⟩,
  ⟨0x3E60, 0x618D_6192_6193_6197_6198_619C_619D_619F_61A0_61A5_61A8_61AA_61AD_61B8_61B9_61BC⟩,
  ⟨0x3E70, 0x61C0_61C1_61C2_61CE_61CF_61D5_61DC_61DD_61DE_61DF_61E1_61E2_61E7_61E9_61E5_0000⟩,
  ⟨0x3F20, 0x0000_61EC_61ED_61EF_6201_6203_6204_6207_6213_6215_621C_6220_6222_6223_6227_6229⟩,
  ⟨0x3F30, 0x622B_6239_623D_6242_6243_6244_6246_624C_6250_6251_6252_6254_6256_625A_625C_6264⟩,
  ⟨0x3F40, 0x626D_626F_6273_627A_627D_628D_628E_628F_6290_62A6_62A8_62B3_62B6_62B7_62BA_62BE⟩,
  ⟨0x3F50, 0x62BF_62C4_62CE_62D5_62D6_62DA_62EA_62F2_62F4_62FC_62FD_6303_6304_630A_630B_630D⟩,
  ⟨0x3F60, 0x6310_6313_6316_6318_6329_632A_632D_6335_6336_6339_633C_6341_6342_6343_6344_6346⟩,
  ⟨0x3F70, 0x634A_634B_634E_6352_6353_6354_6358_635B_6365_6366_636C_636D_6371_6374_6375_0000⟩,
  ⟨0x4020, 0x0000_6378_637C_637D_637F_6382_6384_6387_638A_6390_6394_6395_6399_639A_639E_63A4⟩,
  ⟨0x4030, 0x63A6_63AD_63AE_63AF_63BD_63C1_63C5_63C8_63CE_63D1_63D3_63D4_63D5_63DC_63E0_63E5⟩,
  ⟨0x4040, 0x63EA_63EC_63F2_63F3_63F5_63F8_63F9_6409_640A_6410_6412_6414_6418_641E_6420_6422⟩,
  ⟨0x4050, 0x6424_6425_6429_642A_642F_6430_6435_643D_643F_644B_644F_6451_6452_6453_6454_645A⟩,
  ⟨0x4060, 0x645B_645C_645D_645F_6460_6461_6463_646D_6473_6474_647B_647D_6485_6487_648F_6490⟩,
  ⟨0x4070, 0x6491_6498_6499_649B_649D_649F_64A1_64A3_64A6_64A8_64AC_64B3_64BD_64BE_64BF_0000⟩,
  ⟨0x4120, 0x0000_64C4_64C9_64CA_64CB_64CC_64CE_64D0_64D1_64D5_64D7_64E4_64E5_64E9_64EA_64ED⟩,
  ⟨0x4130, 0x64F0_64F5_64F7_64FB_64FF_6501_6504_6508_6509_650A_650F_6513_6514_6516_6519_651B⟩,
  ⟨0x4140, 0x651E_651F_6522_6526_6529_652E_6531_653A_653C_653D_6543_6547_6549_6550_6552_6554⟩,
  ⟨0x4150, 0x655F_6560_6567_656B_657A_657D_6581_6585_658A_6592_6595_6598_659D_65A0_65A3_65A6⟩,
  ⟨0x4160, 0x65AE_65B2_65B3_65B4_65BF_65C2_65C8_65C9_65CE_65D0_65D4_65D6_65D8_65DF_65F0_65F2⟩,
  ⟨0x4170, 0x65F4_65F5_65F9_65FE_65FF_6600_6604_6608_6609_660D_6611_6612_6615_6616_661D_0000⟩,
  ⟨0x4220, 0x0000_661E_6621_6622_6623_6624_6626_6629_662A_662B_662C_662E_6630_6631_6633_6639⟩,
  ⟨0x4230, 0x6637_6640_6645_6646_664A_664C_6651_664E_6657_6658_6659_665B_665C_6660_6661_66FB⟩,
  ⟨0x4240, 0x666A_666B_666C_667E_6673_6675_667F_6677_6678_6679_667B_6680_667C_668B_668C_668D⟩,
  ⟨0x4250, 0x6690_6692_6699_669A_669B_669C_669F_66A0_66A4_66AD_66B1_66B2_66B5_66BB_66BF_66C0⟩,
  ⟨0x4260, 0x66C2_66C3_66C8_66CC_66CE_66CF_66D4_66DB_66DF_66E8_66EB_66EC_66EE_66FA_6705_6707⟩,
  ⟨0x4270, 0x670E_6713_6719_671C_6720_6722_6733_673E_6745_6747_6748_674C_6754_6755_675D_0000⟩,
  ⟨0x4320, 0x0000_6766_676C_676E_6774_6776_677B_6781_6784_678E_678F_6791_6793_6796_6798_6799⟩,
  ⟨0x4330, 0x679B_67B0_67B1_67B2_67B5_67BB_67BC_67BD_67F9_67C0_67C2_67C3_67C5_67C8_67C9_67D2⟩,
  ⟨0x4340, 0x67D7_67D9_67DC_67E1_67E6_67F0_67F2_67F6_67F7_6852_6814_6819_681D_681F_6828_6827⟩,
  ⟨0x4350, 0x682C_682D_682F_6830_6831_6833_683B_683F_6844_6845_684A_684C_6855_6857_6858_685B⟩,
  ⟨0x4360, 0x686B_686E_686F_6870_6871_6872_6875_6879_687A_687B_687C_6882_6884_6886_6888_6896⟩,
  ⟨0x4370, 0x6898_689A_689C_68A1_68A3_68A5_68A9_68AA_68AE_68B2_68BB_68C5_68C8_68CC_68CF_0000⟩,
  ⟨0x4420, 0x0000_68D0_68D1_68D3_68D6_68D9_68DC_68DD_68E5_68E8_68EA_68EB_68EC_68ED_68F0_68F1⟩,
  ⟨0x4430, 0x68F5_68F6_68FB_68FC_68FD_6906_6909_690A_6910_6911_6913_6916_6917_6931_6933_6935⟩,
  ⟨0x4440, 0x6938_693B_6942_6945_6949_694E_6957_695B_6963_6964_6965_6966_6968_6969_696C_6970⟩,
  ⟨0x4450, 0x6971_6972_697A_697B_697F_6980_698D_6992_6996_6998_69A1_69A5_69A6_69A8_69AB_69AD⟩,
  ⟨0x4460, 0x69AF_69B7_69B8_69BA_69BC_69C5_69C8_69D1_69D6_69D7_69E2_69E5_69EE_69EF_69F1_69F3⟩,
  ⟨0x4470, 0x69F5_69FE_6A00_6A01_6A03_6A0F_6A11_6A15_6A1A_6A1D_6A20_6A24_6A28_6A30_6A32_0000⟩,
  ⟨0x4520, 0x0000_6A34_6A37_6A3B_6A3E_6A3F_6A45_6A46_6A49_6A4A_6A4E_6A50_6A51_6A52_6A55_6A56⟩,
  ⟨0x4530, 0x6A5B_6A64_6A67_6A6A_6A71_6A73_6A7E_6A81_6A83_6A86_6A87_6A89_6A8B_6A91_6A9B_6A9D⟩,
  ⟨0x4540, 0x6A9E_6A9F_6AA5_6AAB_6AAF_6AB0_6AB1_6AB4_6ABD_6ABE_6ABF_6AC6_6AC9_6AC8_6ACC_6AD0⟩,
  ⟨0x4550, 0x6AD4_6AD5_6AD6_6ADC_6ADD_6AE4_6AE7_6AEC_6AF0_6AF1_6AF2_6AFC_6AFD_6B02_6B03_6B06⟩,
  ⟨0x4560, 0x6B07_6B09_6B0F_6B10_6B11_6B17_6B1B_6B1E_6B24_6B28_6B2B_6B2C_6B2F_6B35_6B36_6B3B⟩,
  ⟨0x4570, 0x6B3F_6B46_6B4A_6B4D_6B52_6B56_6B58_6B5D_6B60_6B67_6B6B_6B6E_6B70_6B75_6B7D_0000⟩,
  ⟨0x4620, 0x0000_6B7E_6B82_6B85_6B97_6B9B_6B9F_6BA0_6BA2_6BA3_6BA8_6BA9_6BAC_6BAD_6BAE_6BB0⟩,
  ⟨0x4630, 0x6BB8_6BB9_6BBD_6BBE_6BC3_6BC4_6BC9_6BCC_6BD6_6BDA_6BE1_6BE3_6BE6_6BE7_6BEE_6BF1⟩,
  ⟨0x4640, 0x6BF7_6BF9_6BFF_6C02_6C04_6C05_6C09_6C0D_6C0E_6C10_6C12_6C19_6C1F_6C26_6C27_6C28⟩,
  ⟨0x4650, 0x6C2C_6C2E_6C33_6C35_6C36_6C3A_6C3B_6C3F_6C4A_6C4B_6C4D_6C4F_6C52_6C54_6C59_6C5B⟩,
  ⟨0x4660, 0x6C5C_6C6B_6C6D_6C6F_6C74_6C76_6C78_6C79_6C7B_6C85_6C86_6C87_6C89_6C94_6C95_6C97⟩,
  ⟨0x4670, 0x6C98_6C9C_6C9F_6CB0_6CB2_6CB4_6CC2_6CC6_6CCD_6CCF_6CD0_6CD1_6CD2_6CD4_6CD6_0000⟩,
  ⟨0x4720, 0x0000_6CDA_6CDC_6CE0_6CE7_6CE9_6CEB_6CEC_6CEE_6CF2_6CF4_6D04_6D07_6D0A_6D0E_6D0F⟩,
  ⟨0x4730, 0x6D11_6D13_6D1A_6D26_6D27_6D28_6C67_6D2E_6D2F_6D31_6D39_6D3C_6D3F_6D57_6D5E_6D5F⟩,
  ⟨0x4740, 0x6D61_6D65_6D67_6D6F_6D70_6D7C_6D82_6D87_6D91_6D92_6D94_6D96_6D97_6D98_6DAA_6DAC⟩,
  ⟨0x4750, 0x6DB4_6DB7_6DB9_6DBD_6DBF_6DC4_6DC8_6DCA_6DCE_6DCF_6DD6_6DDB_6DDD_6DDF_6DE0_6DE2⟩,
  ⟨0x4760, 0x6DE5_6DE9_6DEF_6DF0_6DF4_6DF6_6DFC_6E00_6E04_6E1E_6E22_6E27_6E32_6E36_6E39_6E3B⟩,
  ⟨0x4770, 0x6E3C_6E44_6E45_6E48_6E49_6E4B_6E4F_6E51_6E52_6E53_6E54_6E57_6E5C_6E5D_6E5E_0000⟩,
  ⟨0x4820, 0x0000_6E62_6E63_6E68_6E73_6E7B_6E7D_6E8D_6E93_6E99_6EA0_6EA7_6EAD_6EAE_6EB1_6EB3⟩,
  ⟨0x4830, 0x6EBB_6EBF_6EC0_6EC1_6EC3_6EC7_6EC8_6ECA_6ECD_6ECE_6ECF_6EEB_6EED_6EEE_6EF9_6EFB⟩,
  ⟨0x4840, 0x6EFD_6F04_6F08_6F0A_6F0C_6F0D_6F16_6F18_6F1A_6F1B_6F26_6F29_6F2A_6F2F_6F30_6F33⟩,
  ⟨0x4850, 0x6F36_6F3B_6F3C_6F2D_6F4F_6F51_6F52_6F53_6F57_6F59_6F5A_6F5D_6F5E_6F61_6F62_6F68⟩,
  ⟨0x4860, 0x6F6C_6F7D_6F7E_6F83_6F87_6F88_6F8B_6F8C_6F8D_6F90_6F92_6F93_6F94_6F96_6F9A_6F9F⟩,
  ⟨0x4870, 0x6FA0_6FA5_6FA6_6FA7_6FA8_6FAE_6FAF_6FB0_6FB5_6FB6_6FBC_6FC5_6FC7_6FC8_6FCA_0000⟩,
  ⟨0x4920, 0x0000_6FDA_6FDE_6FE8_6FE9_6FF0_6FF5_6FF9_6FFC_6FFD_7000_7005_7006_7007_700D_7017⟩,
  ⟨0x4930, 0x7020_7023_702F_7034_7037_7039_703C_7043_7044_7048_7049_704A_704B_7054_7055_705D⟩,
  ⟨0x4940, 0x705E_704E_7064_7065_706C_706E_7075_7076_707E_7081_7085_7086_7094_7095_7096_7097⟩,
  ⟨0x4950, 0x7098_709B_70A4_70AB_70B0_70B1_70B4_70B7_70CA_70D1_70D3_70D4_70D5_70D6_70D8_70DC⟩,
  ⟨0x4960, 0x70E4_70FA_7103_7104_7105_7106_7107_710B_710C_710F_711E_7120_712B_712D_712F_7130⟩,
  ⟨0x4970, 0x7131_7138_7141_7145_7146_7147_714A_714B_7150_7152_7157_715A_715C_715E_7160_0000⟩,
  ⟨0x4A20, 0x0000_7168_7179_7180_7185_7187_718C_7192_719A_719B_71A0_71A2_71AF_71B0_71B2_71B3⟩,
  ⟨0x4A30, 0x71BA_71BF_71C0_71C1_71C4_71CB_71CC_71D3_71D6_71D9_71DA_71DC_71F8_71FE_7200_7207⟩,
  ⟨0x4A40, 0x7208_7209_7213_7217_721A_721D_721F_7224_722B_722F_7234_7238_7239_7241_7242_7243⟩,
  ⟨0x4A50, 0x7245_724E_724F_7250_7253_7255_7256_725A_725C_725E_7260_7263_7268_726B_726E_726F⟩,
  ⟨0x4A60, 0x7271_7277_7278_727B_727C_727F_7284_7289_728D_728E_7293_729B_72A8_72AD_72AE_72B1⟩,
  ⟨0x4A70, 0x72B4_72BE_72C1_72C7_72C9_72CC_72D5_72D6_72D8_72DF_72E5_72F3_72F4_72FA_72FB_0000⟩,
  ⟨0x4B20, 0x0000_72FE_7302_7304_7305_7307_730B_730D_7312_7313_7318_7319_731E_7322_7324_7327⟩,
  ⟨0x4B30, 0x7328_732C_7331_7332_7335_733A_733B_733D_7343_734D_7350_7352_7356_7358_735D_735E⟩,
  ⟨0x4B40, 0x735F_7360_7366_7367_7369_736B_736C_736E_736F_7371_7377_7379_737C_7380_7381_7383⟩,
  ⟨0x4B50, 0x7385_7386_738E_7390_7393_7395_7397_7398_739C_739E_739F_73A0_73A2_73A5_73A6_73AA⟩,
  ⟨0x4B60, 0x73AB_73AD_73B5_73B7_73B9_73BC_73BD_73BF_73C5_73C6_73C9_73CB_73CC_73CF_73D2_73D3⟩,
  ⟨0x4B70, 0x73D6_73D9_73DD_73E1_73E3_73E6_73E7_73E9_73F4_73F5_73F7_73F9_73FA_73FB_73FD_0000⟩,
  ⟨0x4C20, 0x0000_73FF_7400_7401_7404_7407_740A_7411_741A_741B_7424_7426_7428_7429_742A_742B⟩,
  ⟨0x4C30, 0x742C_742D_742E_742F_7430_7431_7439_7440_7443_7444_7446_7447_744B_744D_7451_7452⟩,
  ⟨0x4C40, 0x7457_745D_7462_7466_7467_7468_746B_746D_746E_7471_7472_7480_7481_7485_7486_7487⟩,
  ⟨0x4C50, 0x7489_748F_7490_7491_7492_7498_7499_749A_749C_749F_74A0_74A1_74A3_74A6_74A8_74A9⟩,
  ⟨0x4C60, 0x74AA_74AB_74AE_74AF_74B1_74B2_74B5_74B9_74BB_74BF_74C8_74C9_74CC_74D0_74D3_74D8⟩,
  ⟨0x4C70, 0x74DA_74DB_74DE_74DF_74E4_74E8_74EA_74EB_74EF_74F4_74FA_74FB_74FC_74FF_7506_0000⟩,
  ⟨0x4D20, 0x0000_7512_7516_7517_7520_7521_7524_7527_7529_752A_752F_7536_7539_753D_753E_753F⟩,
  ⟨0x4D30, 0x7540_7543_7547_7548_754E_7550_7552_7557_755E_755F_7561_756F_7571_7579_757A_757B⟩,
  ⟨0x4D40, 0x757C_757D_757E_7581_7585_7590_7592_7593_7595_7599_759C_75A2_75A4_75B4_75BA_75BF⟩,
  ⟨0x4D50, 0x75C0_75C1_75C4_75C6_75CC_75CE_75CF_75D7_75DC_75DF_75E0_75E1_75E4_75E7_75EC_75EE⟩,
  ⟨0x4D60, 0x75EF_75F1_75F9_7600_7602_7603_7604_7607_7608_760A_760C_760F_7612_7613_7615_7616⟩,
  ⟨0x4D70, 0x7619_761B_761C_761D_761E_7623_7625_7626_7629_762D_7632_7633_7635_7638_7639_0000⟩,
  ⟨0x4E20, 0x0000_763A_763C_764A_7640_7641_7643_7644_7645_7649_764B_7655_7659_765F_7664_7665⟩,
  ⟨0x4E30, 0x766D_766E_766F_7671_7674_7681_7685_768C_768D_7695_769B_769C_769D_769F_76A0_76A2⟩,
  ⟨0x4E40, 0x76A3_76A4_76A5_76A6_76A7_76A8_76AA_76AD_76BD_76C1_76C5_76C9_76CB_76CC_76CE_76D4⟩,
  ⟨0x4E50, 0x76D9_76E0_76E6_76E8_76EC_76F0_76F1_76F6_76F9_76FC_7700_7706_770A_770E_7712_7714⟩,
  ⟨0x4E60, 0x7715_7717_7719_771A_771C_7722_7728_772D_772E_772F_7734_7735_7736_7739_773D_773E⟩,
  ⟨0x4E70, 0x7742_7745_7746_774A_774D_774E_774F_7752_7756_7757_775C_775E_775F_7760_7762_0000⟩,
  ⟨0x4F20, 0x0000_7764_7767_776A_776C_7770_7772_7773_7774_777A_777D_7780_7784_778C_778D_7794⟩,
  ⟨0x4F30, 0x7795_7796_779A_779F_77A2_77A7_77AA_77AE_77AF_77B1_77B5_77BE_77C3_77C9_77D1_77D2⟩,
  ⟨0x4F40, 0x77D5_77D9_77DE_77DF_77E0_77E4_77E6_77EA_77EC_77F0_77F1_77F4_77F8_77FB_7805_7806⟩,
  ⟨0x4F50, 0x7809_780D_780E_7811_781D_7821_7822_7823_782D_782E_7830_7835_7837_7843_7844_7847⟩,
  ⟨0x4F60, 0x7848_784C_784E_7852_785C_785E_7860_7861_7863_7864_7868_786A_786E_787A_787E_788A⟩,
  ⟨0x4F70, 0x788F_7894_7898_78A1_789D_789E_789F_78A4_78A8_78AC_78AD_78B0_78B1_78B2_78B3_0000⟩,
  ⟨0x5020, 0x0000_78BB_78BD_78BF_78C7_78C8_78C9_78CC_78CE_78D2_78D3_78D5_78D6_78E4_78DB_78DF⟩,
  ⟨0x5030, 0x78E0_78E1_78E6_78EA_78F2_78F3_7900_78F6_78F7_78FA_78FB_78FF_7906_790C_7910_791A⟩,
  ⟨0x5040, 0x791C_791E_791F_7920_7925_7927_7929_792D_7931_7934_7935_793B_793D_793F_7944_7945⟩,
  ⟨0x5050, 0x7946_794A_794B_794F_7951_7954_7958_795B_795C_7967_7969_796B_7972_7979_797B_797C⟩,
  ⟨0x5060, 0x797E_798B_798C_7991_7993_7994_7995_7996_7998_799B_799C_79A1_79A8_79A9_79AB_79AF⟩,
  ⟨0x5070, 0x79B1_79B4_79B8_79BB_79C2_79C4_79C7_79C8_79CA_79CF_79D4_79D6_79DA_79DD_79DE_0000⟩,
  ⟨0x5120, 0x0000_79E0_79E2_79E5_79EA_79EB_79ED_79F1_79F8_79FC_7A02_7A03_7A07_7A09_7A0A_7A0C⟩,
  ⟨0x5130, 0x7A11_7A15_7A1B_7A1E_7A21_7A27_7A2B_7A2D_7A2F_7A30_7A34_7A35_7A38_7A39_7A3A_7A44⟩,
  ⟨0x5140, 0x7A45_7A47_7A48_7A4C_7A55_7A56_7A59_7A5C_7A5D_7A5F_7A60_7A65_7A67_7A6A_7A6D_7A75⟩,
  ⟨0x5150, 0x7A78_7A7E_7A80_7A82_7A85_7A86_7A8A_7A8B_7A90_7A91_7A94_7A9E_7AA0_7AA3_7AAC_7AB3⟩,
  ⟨0x5160, 0x7AB5_7AB9_7ABB_7ABC_7AC6_7AC9_7ACC_7ACE_7AD1_7ADB_7AE8_7AE9_7AEB_7AEC_7AF1_7AF4⟩,
  ⟨0x5170, 0x7AFB_7AFD_7AFE_7B07_7B14_7B1F_7B23_7B27_7B29_7B2A_7B2B_7B2D_7B2E_7B2F_7B30_0000⟩,
  ⟨0x5220, 0x0000_7B31_7B34_7B3D_7B3F_7B40_7B41_7B47_7B4E_7B55_7B60_7B64_7B66_7B69_7B6A_7B6D⟩,
  ⟨0x5230, 0x7B6F_7B72_7B73_7B77_7B84_7B89_7B8E_7B90_7B91_7B96_7B9B_7B9E_7BA0_7BA5_7BAC_7BAF⟩,
  ⟨0x5240, 0x7BB0_7BB2_7BB5_7BB6_7BBA_7BBB_7BBC_7BBD_7BC2_7BC5_7BC8_7BCA_7BD4_7BD6_7BD7_7BD9⟩,
  ⟨0x5250, 0x7BDA_7BDB_7BE8_7BEA_7BF2_7BF4_7BF5_7BF8_7BF9_7BFA_7BFC_7BFE_7C01_7C02_7C03_7C04⟩,
  ⟨0x5260, 0x7C06_7C09_7C0B_7C0C_7C0E_7C0F_7C19_7C1B_7C20_7C25_7C26_7C28_7C2C_7C31_7C33_7C34⟩,
  ⟨0x5270, 0x7C36_7C39_7C3A_7C46_7C4A_7C55_7C51_7C52_7C53_7C59_7C5A_7C5B_7C5C_7C5D_7C5E_0000⟩,
  ⟨0x5320, 0x0000_7C61_7C63_7C67_7C69_7C6D_7C6E_7C70_7C72_7C79_7C7C_7C7D_7C86_7C87_7C8F_7C94⟩,
  ⟨0x5330, 0x7C9E_7CA0_7CA6_7CB0_7CB6_7CB7_7CBA_7CBB_7CBC_7CBF_7CC4_7CC7_7CC8_7CC9_7CCD_7CCF⟩,
  ⟨0x5340, 0x7CD3_7CD4_7CD5_7CD7_7CD9_7CDA_7CDD_7CE6_7CE9_7CEB_7CF5_7D03_7D07_7D08_7D09_7D0F⟩,
  ⟨0x5350, 0x7D11_7D12_7D13_7D16_7D1D_7D1E_7D23_7D26_7D2A_7D2D_7D31_7D3C_7D3D_7D3E_7D40_7D41⟩,
  ⟨0x5360, 0x7D47_7D48_7D4D_7D51_7D53_7D57_7D59_7D5A_7D5C_7D5D_7D65_7D67_7D6A_7D70_7D78_7D7A⟩,
  ⟨0x5370, 0x7D7B_7D7F_7D81_7D82_7D83_7D85_7D86_7D88_7D8B_7D8C_7D8D_7D91_7D96_7D97_7D9D_0000⟩,
  ⟨0x5420, 0x0000_7D9E_7DA6_7DA7_7DAA_7DB3_7DB6_7DB7_7DB9_7DC2_7DC3_7DC4_7DC5_7DC6_7DCC_7DCD⟩,
  ⟨0x5430, 0x7DCE_7DD7_7DD9_7E00_7DE2_7DE5_7DE6_7DEA_7DEB_7DED_7DF1_7DF5_7DF6_7DF9_7DFA_7E08⟩,
  ⟨0x5440, 0x7E10_7E11_7E15_7E17_7E1C_7E1D_7E20_7E27_7E28_7E2C_7E2D_7E2F_7E33_7E36_7E3F_7E44⟩,
  ⟨0x5450, 0x7E45_7E47_7E4E_7E50_7E52_7E58_7E5F_7E61_7E62_7E65_7E6B_7E6E_7E6F_7E73_7E78_7E7E⟩,
  ⟨0x5460, 0x7E81_7E86_7E87_7E8A_7E8D_7E91_7E95_7E98_7E9A_7E9D_7E9E_7F3C_7F3B_7F3D_7F3E_7F3F⟩,
  ⟨0x5470, 0x7F43_7F44_7F47_7F4F_7F52_7F53_7F5B_7F5C_7F5D_7F61_7F63_7F64_7F65_7F66_7F6D_0000⟩,
  ⟨0x5520, 0x0000_7F71_7F7D_7F7E_7F7F_7F80_7F8B_7F8D_7F8F_7F90_7F91_7F96_7F97_7F9C_7FA1_7FA2⟩,
  ⟨0x5530, 0x7FA6_7FAA_7FAD_7FB4_7FBC_7FBF_7FC0_7FC3_7FC8_7FCE_7FCF_7FDB_7FDF_7FE3_7FE5_7FE8⟩,
  ⟨0x5540, 0x7FEC_7FEE_7FEF_7FF2_7FFA_7FFD_7FFE_7FFF_8007_8008_800A_800D_800E_800F_8011_8013⟩,
  ⟨0x5550, 0x8014_8016_801D_801E_801F_8020_8024_8026_802C_802E_8030_8034_8035_8037_8039_803A⟩,
  ⟨0x5560, 0x803C_803E_8040_8044_8060_8064_8066_806D_8071_8075_8081_8088_808E_809C_809E_80A6⟩,
  ⟨0x5570, 0x80A7_80AB_80B8_80B9_80C8_80CD_80CF_80D2_80D4_80D5_80D7_80D8_80E0_80ED_80EE_0000⟩,
  ⟨0x5620, 0x0000_80F0_80F2_80F3_80F6_80F9_80FA_80FE_8103_810B_8116_8117_8118_811C_811E_8120⟩,
  ⟨0x5630, 0x8124_8127_812C_8130_8135_813A_813C_8145_8147_814A_814C_8152_8157_8160_8161_8167⟩,
  ⟨0x5640, 0x8168_8169_816D_816F_8177_8181_8190_8184_8185_8186_818B_818E_8196_8198_819B_819E⟩,
  ⟨0x5650, 0x81A2_81AE_81B2_81B4_81BB_81CB_81C3_81C5_81CA_81CE_81CF_81D5_81D7_81DB_81DD_81DE⟩,
  ⟨0x5660, 0x81E1_81E4_81EB_81EC_81F0_81F1_81F2_81F5_81F6_81F8_81F9_81FD_81FF_8200_8203_820F⟩,
  ⟨0x5670, 0x8213_8214_8219_821A_821D_8221_8222_8228_8232_8234_823A_8243_8244_8245_8246_0000⟩,
  ⟨0x5720, 0x0000_824B_824E_824F_8251_8256_825C_8260_8263_8267_826D_8274_827B_827D_827F_8280⟩,
  ⟨0x5730, 0x8281_8283_8284_8287_8289_828A_828E_8291_8294_8296_8298_829A_829B_82A0_82A1_82A3⟩,
  ⟨0x5740, 0x82A4_82A7_82A8_82A9_82AA_82AE_82B0_82B2_82B4_82B7_82BA_82BC_82BE_82BF_82C6_82D0⟩,
  ⟨0x5750, 0x82D5_82DA_82E0_82E2_82E4_82E8_82EA_82ED_82EF_82F6_82F7_82FD_82FE_8300_8301_8307⟩,
  ⟨0x5760, 0x8308_830A_830B_8354_831B_831D_831E_831F_8321_8322_832C_832D_832E_8330_8333_8337⟩,
  ⟨0x5770, 0x833A_833C_833D_8342_8343_8344_8347_834D_834E_8351_8355_8356_8357_8370_8378_0000⟩,
  ⟨0x5820, 0x0000_837D_837F_8380_8382_8384_8386_838D_8392_8394_8395_8398_8399_839B_839C_839D⟩,
  ⟨0x5830, 0x83A6_83A7_83A9_83AC_83BE_83BF_83C0_83C7_83C9_83CF_83D0_83D1_83D4_83DD_8353_83E8⟩,
  ⟨0x5840, 0x83EA_83F6_83F8_83F9_83FC_8401_8406_840A_840F_8411_8415_8419_83AD_842F_8439_8445⟩,
  ⟨0x5850, 0x8447_8448_844A_844D_844F_8451_8452_8456_8458_8459_845A_845C_8460_8464_8465_8467⟩,
  ⟨0x5860, 0x846A_8470_8473_8474_8476_8478_847C_847D_8481_8485_8492_8493_8495_849E_84A6_84A8⟩,
  ⟨0x5870, 0x84A9_84AA_84AF_84B1_84B4_84BA_84BD_84BE_84C0_84C2_84C7_84C8_84CC_84CF_84D3_0000⟩,
  ⟨0x5920, 0x0000_84DC_84E7_84EA_84EF_84F0_84F1_84F2_84F7_8532_84FA_84FB_84FD_8502_8503_8507⟩,
  ⟨0x5930, 0x850C_850E_8510_851C_851E_8522_8523_8524_8525_8527_852A_852B_852F_8533_8534_8536⟩,
  ⟨0x5940, 0x853F_8546_854F_8550_8551_8552_8553_8556_8559_855C_855D_855E_855F_8560_8561_8562⟩,
  ⟨0x5950, 0x8564_856B_856F_8579_857A_857B_857D_857F_8581_8585_8586_8589_858B_858C_858F_8593⟩,
  ⟨0x5960, 0x8598_859D_859F_85A0_85A2_85A5_85A7_85B4_85B6_85B7_85B8_85BC_85BD_85BE_85BF_85C2⟩,
  ⟨0x5970, 0x85C7_85CA_85CB_85CE_85AD_85D8_85DA_85DF_85E0_85E6_85E8_85ED_85F3_85F6_85FC_0000⟩,
  ⟨0x5A20, 0x0000_85FF_8600_8604_8605_860D_860E_8610_8611_8612_8618_8619_861B_861E_8621_8627⟩,
  ⟨0x5A30, 0x8629_8636_8638_863A_863C_863D_8640_8642_8646_8652_8653_8656_8657_8658_8659_865D⟩,
  ⟨0x5A40, 0x8660_8661_8662_8663_8664_8669_866C_866F_8675_8676_8677_867A_868D_8691_8696_8698⟩,
  ⟨0x5A50, 0x869A_869C_86A1_86A6_86A7_86A8_86AD_86B1_86B3_86B4_86B5_86B7_86B8_86B9_86BF_86C0⟩,
  ⟨0x5A60, 0x86C1_86C3_86C5_86D1_86D2_86D5_86D7_86DA_86DC_86E0_86E3_86E5_86E7_8688_86FA_86FC⟩,
  ⟨0x5A70, 0x86FD_8704_8705_8707_870B_870E_870F_8710_8713_8714_8719_871E_871F_8721_8723_0000⟩,
  ⟨0x5B20, 0x0000_8728_872E_872F_8731_8732_8739_873A_873C_873D_873E_8740_8743_8745_874D_8758⟩,
  ⟨0x5B30, 0x875D_8761_8764_8765_876F_8771_8772_877B_8783_8784_8785_8786_8787_8788_8789_878B⟩,
  ⟨0x5B40, 0x878C_8790_8793_8795_8797_8798_8799_879E_87A0_87A3_87A7_87AC_87AD_87AE_87B1_87B5⟩,
  ⟨0x5B50, 0x87BE_87BF_87C1_87C8_87C9_87CA_87CE_87D5_87D6_87D9_87DA_87DC_87DF_87E2_87E3_87E4⟩,
  ⟨0x5B60, 0x87EA_87EB_87ED_87F1_87F3_87F8_87FA_87FF_8801_8803_8806_8809_880A_880B_8810_8819⟩,
  ⟨0x5B70, 0x8812_8813_8814_8818_881A_881B_881C_881E_881F_8828_882D_882E_8830_8832_8835_0000⟩,
  ⟨0x5C20, 0x0000_883A_883C_8841_8843_8845_8848_8849_884A_884B_884E_8851_8855_8856_8858_885A⟩,
  ⟨0x5C30, 0x885C_885F_8860_8864_8869_8871_8879_887B_8880_8898_889A_889B_889C_889F_88A0_88A8⟩,
  ⟨0x5C40, 0x88AA_88BA_88BD_88BE_88C0_88CA_88CB_88CC_88CD_88CE_88D1_88D2_88D3_88DB_88DE_88E7⟩,
  ⟨0x5C50, 0x88EF_88F0_88F1_88F5_88F7_8901_8906_890D_890E_890F_8915_8916_8918_8919_891A_891C⟩,
  ⟨0x5C60, 0x8920_8926_8927_8928_8930_8931_8932_8935_8939_893A_893E_8940_8942_8945_8946_8949⟩,
  ⟨0x5C70, 0x894F_8952_8957_895A_895B_895C_8961_8962_8963_896B_896E_8970_8973_8975_897A_0000⟩,
  ⟨0x5D20, 0x0000_897B_897C_897D_8989_898D_8990_8994_8995_899B_899C_899F_89A0_89A5_89B0_89B4⟩,
  ⟨0x5D30, 0x89B5_89B6_89B7_89BC_89D4_89D5_89D6_89D7_89D8_89E5_89E9_89EB_89ED_89F1_89F3_89F6⟩,
  ⟨0x5D40, 0x89F9_89FD_89FF_8A04_8A05_8A07_8A0F_8A11_8A12_8A14_8A15_8A1E_8A20_8A22_8A24_8A26⟩,
  ⟨0x5D50, 0x8A2B_8A2C_8A2F_8A35_8A37_8A3D_8A3E_8A40_8A43_8A45_8A47_8A49_8A4D_8A4E_8A53_8A56⟩,
  ⟨0x5D60, 0x8A57_8A58_8A5C_8A5D_8A61_8A65_8A67_8A75_8A76_8A77_8A79_8A7A_8A7B_8A7E_8A7F_8A80⟩,
  ⟨0x5D70, 0x8A83_8A86_8A8B_8A8F_8A90_8A92_8A96_8A97_8A99_8A9F_8AA7_8AA9_8AAE_8AAF_8AB3_0000⟩,
  ⟨0x5E20, 0x0000_8AB6_8AB7_8ABB_8ABE_8AC3_8AC6_8AC8_8AC9_8ACA_8AD1_8AD3_8AD4_8AD5_8AD7_8ADD⟩,
  ⟨0x5E30, 0x8ADF_8AEC_8AF0_8AF4_8AF5_8AF6_8AFC_8AFF_8B05_8B06_8B0B_8B11_8B1C_8B1E_8B1F_8B0A⟩,
  ⟨0x5E40, 0x8B2D_8B30_8B37_8B3C_8B42_8B43_8B44_8B45_8B46_8B48_8B52_8B53_8B54_8B59_8B4D_8B5E⟩,
  ⟨0x5E50, 0x8B63_8B6D_8B76_8B78_8B79_8B7C_8B7E_8B81_8B84_8B85_8B8B_8B8D_8B8F_8B94_8B95_8B9C⟩,
  ⟨0x5E60, 0x8B9E_8B9F_8C38_8C39_8C3D_8C3E_8C45_8C47_8C49_8C4B_8C4F_8C51_8C53_8C54_8C57_8C58⟩,
  ⟨0x5E70, 0x8C5B_8C5D_8C59_8C63_8C64_8C66_8C68_8C69_8C6D_8C73_8C75_8C76_8C7B_8C7E_8C86_0000⟩,
  ⟨0x5F20, 0x0000_8C87_8C8B_8C90_8C92_8C93_8C99_8C9B_8C9C_8CA4_8CB9_8CBA_8CC5_8CC6_8CC9_8CCB⟩,
  ⟨0x5F30, 0x8CCF_8CD6_8CD5_8CD9_8CDD_8CE1_8CE8_8CEC_8CEF_8CF0_8CF2_8CF5_8CF7_8CF8_8CFE_8CFF⟩,
  ⟨0x5F40, 0x8D01_8D03_8D09_8D12_8D17_8D1B_8D65_8D69_8D6C_8D6E_8D7F_8D82_8D84_8D88_8D8D_8D90⟩,
  ⟨0x5F50, 0x8D91_8D95_8D9E_8D9F_8DA0_8DA6_8DAB_8DAC_8DAF_8DB2_8DB5_8DB7_8DB9_8DBB_8DC0_8DC5⟩,
  ⟨0x5F60, 0x8DC6_8DC7_8DC8_8DCA_8DCE_8DD1_8DD4_8DD5_8DD7_8DD9_8DE4_8DE5_8DE7_8DEC_8DF0_8DBC⟩,
  ⟨0x5F70, 0x8DF1_8DF2_8DF4_8DFD_8E01_8E04_8E05_8E06_8E0B_8E11_8E14_8E16_8E20_8E21_8E22_0000⟩,
  ⟨0x6020, 0x0000_8E23_8E26_8E27_8E31_8E33_8E36_8E37_8E38_8E39_8E3D_8E40_8E41_8E4B_8E4D_8E4E⟩,
  ⟨0x6030, 0x8E4F_8E54_8E5B_8E5C_8E5D_8E5E_8E61_8E62_8E69_8E6C_8E6D_8E6F_8E70_8E71_8E79_8E7A⟩,
  ⟨0x6040, 0x8E7B_8E82_8E83_8E89_8E90_8E92_8E95_8E9A_8E9B_8E9D_8E9E_8EA2_8EA7_8EA9_8EAD_8EAE⟩,
  ⟨0x6050, 0x8EB3_8EB5_8EBA_8EBB_8EC0_8EC1_8EC3_8EC4_8EC7_8ECF_8ED1_8ED4_8EDC_8EE8_8EEE_8EF0⟩,
  ⟨0x6060, 0x8EF1_8EF7_8EF9_8EFA_8EED_8F00_8F02_8F07_8F08_8F0F_8F10_8F16_8F17_8F18_8F1E_8F20⟩,
  ⟨0x6070, 0x8F21_8F23_8F25_8F27_8F28_8F2C_8F2D_8F2E_8F34_8F35_8F36_8F37_8F3A_8F40_8F41_0000⟩,
  ⟨0x6120, 0x0000_8F43_8F47_8F4F_8F51_8F52_8F53_8F54_8F55_8F58_8F5D_8F5E_8F65_8F9D_8FA0_8FA1⟩,
  ⟨0x6130, 0x8FA4_8FA5_8FA6_8FB5_8FB6_8FB8_8FBE_8FC0_8FC1_8FC6_8FCA_8FCB_8FCD_8FD0_8FD2_8FD3⟩,
  ⟨0x6140, 0x8FD5_8FE0_8FE3_8FE4_8FE8_8FEE_8FF1_8FF5_8FF6_8FFB_8FFE_9002_9004_9008_900C_9018⟩,
  ⟨0x6150, 0x901B_9028_9029_902F_902A_902C_902D_9033_9034_9037_903F_9043_9044_904C_905B_905D⟩,
  ⟨0x6160, 0x9062_9066_9067_906C_9070_9074_9079_9085_9088_908B_908C_908E_9090_9095_9097_9098⟩,
  ⟨0x6170, 0x9099_909B_90A0_90A1_90A2_90A5_90B0_90B2_90B3_90B4_90B6_90BD_90CC_90BE_90C3_0000⟩,
  ⟨0x6220, 0x0000_90C4_90C5_90C7_90C8_90D5_90D7_90D8_90D9_90DC_90DD_90DF_90E5_90D2_90F6_90EB⟩,
  ⟨0x6230, 0x90EF_90F0_90F4_90FE_90FF_9100_9104_9105_9106_9108_910D_9110_9114_9116_9117_9118⟩,
  ⟨0x6240, 0x911A_911C_911E_9120_9125_9122_9123_9127_9129_912E_912F_9131_9134_9136_9137_9139⟩,
  ⟨0x6250, 0x913A_913C_913D_9143_9147_9148_914F_9153_9157_9159_915A_915B_9161_9164_9167_916D⟩,
  ⟨0x6260, 0x9174_9179_917A_917B_9181_9183_9185_9186_918A_918E_9191_9193_9194_9195_9198_919E⟩,
  ⟨0x6270, 0x91A1_91A6_91A8_91AC_91AD_91AE_91B0_91B1_91B2_91B3_91B6_91BB_91BC_91BD_91BF_0000⟩,
  ⟨0x6320, 0x0000_91C2_91C3_91C5_91D3_91D4_91D7_91D9_91DA_91DE_91E4_91E5_91E9_91EA_91EC_91ED⟩,
  ⟨0x6330, 0x91EE_91EF_91F0_91F1_91F7_91F9_91FB_91FD_9200_9201_9204_9205_9206_9207_9209_920A⟩,
  ⟨0x6340, 0x920C_9210_9212_9213_9216_9218_921C_921D_9223_9224_9225_9226_9228_922E_922F_9230⟩,
  ⟨0x6350, 0x9233_9235_9236_9238_9239_923A_923C_923E_9240_9242_9243_9246_9247_924A_924D_924E⟩,
  ⟨0x6360, 0x924F_9251_9258_9259_925C_925D_9260_9261_9265_9267_9268_9269_926E_926F_9270_9275⟩,
  ⟨0x6370, 0x9276_9277_9278_9279_927B_927C_927D_927F_9288_9289_928A_928D_928E_9292_9297_0000⟩,
  ⟨0x6420, 0x0000_9299_929F_92A0_92A4_92A5_92A7_92A8_92AB_92AF_92B2_92B6_92B8_92BA_92BB_92BC⟩,
  ⟨0x6430, 0x92BD_92BF_92C0_92C1_92C2_92C3_92C5_92C6_92C7_92C8_92CB_92CC_92CD_92CE_92D0_92D3⟩,
  ⟨0x6440, 0x92D5_92D7_92D8_92D9_92DC_92DD_92DF_92E0_92E1_92E3_92E5_92E7_92E8_92EC_92EE_92F0⟩,
  ⟨0x6450, 0x92F9_92FB_92FF_9300_9302_9308_930D_9311_9314_9315_931C_931D_931E_931F_9321_9324⟩,
  ⟨0x6460, 0x9325_9327_9329_932A_9333_9334_9336_9337_9347_9348_9349_9350_9351_9352_9355_9357⟩,
  ⟨0x6470, 0x9358_935A_935E_9364_9365_9367_9369_936A_936D_936F_9370_9371_9373_9374_9376_0000⟩,
  ⟨0x6520, 0x0000_937A_937D_937F_9380_9381_9382_9388_938A_938B_938D_938F_9392_9395_9398_939B⟩,
  ⟨0x6530, 0x939E_93A1_93A3_93A4_93A6_93A8_93AB_93B4_93B5_93B6_93BA_93A9_93C1_93C4_93C5_93C6⟩,
  ⟨0x6540, 0x93C7_93C9_93CA_93CB_93CC_93CD_93D3_93D9_93DC_93DE_93DF_93E2_93E6_93E7_93F9_93F7⟩,
  ⟨0x6550, 0x93F8_93FA_93FB_93FD_9401_9402_9404_9408_9409_940D_940E_940F_9415_9416_9417_941F⟩,
  ⟨0x6560, 0x942E_942F_9431_9432_9433_9434_943B_943F_943D_9443_9445_9448_944A_944C_9455_9459⟩,
  ⟨0x6570, 0x945C_945F_9461_9463_9468_946B_946D_946E_946F_9471_9472_9484_9483_9578_9579_0000⟩,
  ⟨0x6620, 0x0000_957E_9584_9588_958C_958D_958E_959D_959E_959F_95A1_95A6_95A9_95AB_95AC_95B4⟩,
  ⟨0x6630, 0x95B6_95BA_95BD_95BF_95C6_95C8_95C9_95CB_95D0_95D1_95D2_95D3_95D9_95DA_95DD_95DE⟩,
  ⟨0x6640, 0x95DF_95E0_95E4_95E6_961D_961E_9622_9624_9625_9626_962C_9631_9633_9637_9638_9639⟩,
  ⟨0x6650, 0x963A_963C_963D_9641_9652_9654_9656_9657_9658_9661_966E_9674_967B_967C_967E_967F⟩,
  ⟨0x6660, 0x9681_9682_9683_9684_9689_9691_9696_969A_969D_969F_96A4_96A5_96A6_96A9_96AE_96AF⟩,
  ⟨0x6670, 0x96B3_96BA_96CA_96D2_5DB2_96D8_96DA_96DD_96DE_96DF_96E9_96EF_96F1_96FA_9702_0000⟩,
  ⟨0x6720, 0x0000_9703_9705_9709_971A_971B_971D_9721_9722_9723_9728_9731_9733_9741_9743_974A⟩,
  ⟨0x6730, 0x974E_974F_9755_9757_9758_975A_975B_9763_9767_976A_976E_9773_9776_9777_9778_977B⟩,
  ⟨0x6740, 0x977D_977F_9780_9789_9795_9796_9797_9799_979A_979E_979F_97A2_97AC_97AE_97B1_97B2⟩,
  ⟨0x6750, 0x97B5_97B6_97B8_97B9_97BA_97BC_97BE_97BF_97C1_97C4_97C5_97C7_97C9_97CA_97CC_97CD⟩,
  ⟨0x6760, 0x97CE_97D0_97D1_97D4_97D7_97D8_97D9_97DD_97DE_97E0_97DB_97E1_97E4_97EF_97F1_97F4⟩,
  ⟨0x6770, 0x97F7_97F8_97FA_9807_980A_9819_980D_980E_9814_9816_981C_981E_9820_9823_9826_0000⟩,
  ⟨0x6820, 0x0000_982B_982E_982F_9830_9832_9833_9835_9825_983E_9844_9847_984A_9851_9852_9853⟩,
  ⟨0x6830, 0x9856_9857_9859_985A_9862_9863_9865_9866_986A_986C_98AB_98AD_98AE_98B0_98B4_98B7⟩,
  ⟨0x6840, 0x98B8_98BA_98BB_98BF_98C2_98C5_98C8_98CC_98E1_98E3_98E5_98E6_98E7_98EA_98F3_98F6⟩,
  ⟨0x6850, 0x9902_9907_9908_9911_9915_9916_9917_991A_991B_991C_991F_9922_9926_9927_992B_9931⟩,
  ⟨0x6860, 0x9932_9933_9934_9935_9939_993A_993B_993C_9940_9941_9946_9947_9948_994D_994E_9954⟩,
  ⟨0x6870, 0x9958_9959_995B_995C_995E_995F_9960_999B_999D_999F_99A6_99B0_99B1_99B2_99B5_0000⟩,
  ⟨0x6920, 0x0000_99B9_99BA_99BD_99BF_99C3_99C9_99D3_99D4_99D9_99DA_99DC_99DE_99E7_99EA_99EB⟩,
  ⟨0x6930, 0x99EC_99F0_99F4_99F5_99F9_99FD_99FE_9A02_9A03_9A04_9A0B_9A0C_9A10_9A11_9A16_9A1E⟩,
  ⟨0x6940, 0x9A20_9A22_9A23_9A24_9A27_9A2D_9A2E_9A33_9A35_9A36_9A38_9A47_9A41_9A44_9A4A_9A4B⟩,
  ⟨0x6950, 0x9A4C_9A4E_9A51_9A54_9A56_9A5D_9AAA_9AAC_9AAE_9AAF_9AB2_9AB4_9AB5_9AB6_9AB9_9ABB⟩,
  ⟨0x6960, 0x9ABE_9ABF_9AC1_9AC3_9AC6_9AC8_9ACE_9AD0_9AD2_9AD5_9AD6_9AD7_9ADB_9ADC_9AE0_9AE4⟩,
  ⟨0x6970, 0x9AE5_9AE7_9AE9_9AEC_9AF2_9AF3_9AF5_9AF9_9AFA_9AFD_9AFF_9B00_9B01_9B02_9B03_0000⟩,
  ⟨0x6A20, 0x0000_9B04_9B05_9B08_9B09_9B0B_9B0C_9B0D_9B0E_9B10_9B12_9B16_9B19_9B1B_9B1C_9B20⟩,
  ⟨0x6A30, 0x9B26_9B2B_9B2D_9B33_9B34_9B35_9B37_9B39_9B3A_9B3D_9B48_9B4B_9B4C_9B55_9B56_9B57⟩,
  ⟨0x6A40, 0x9B5B_9B5E_9B61_9B63_9B65_9B66_9B68_9B6A_9B6B_9B6C_9B6D_9B6E_9B73_9B75_9B77_9B78⟩,
  ⟨0x6A50, 0x9B79_9B7F_9B80_9B84_9B85_9B86_9B87_9B89_9B8A_9B8B_9B8D_9B8F_9B90_9B94_9B9A_9B9D⟩,
  ⟨0x6A60, 0x9B9E_9BA6_9BA7_9BA9_9BAC_9BB0_9BB1_9BB2_9BB7_9BB8_9BBB_9BBC_9BBE_9BBF_9BC1_9BC7⟩,
  ⟨0x6A70, 0x9BC8_9BCE_9BD0_9BD7_9BD8_9BDD_9BDF_9BE5_9BE7_9BEA_9BEB_9BEF_9BF3_9BF7_9BF8_0000⟩,
  ⟨0x6B20, 0x0000_9BF9_9BFA_9BFD_9BFF_9C00_9C02_9C0B_9C0F_9C11_9C16_9C18_9C19_9C1A_9C1C_9C1E⟩,
  ⟨0x6B30, 0x9C22_9C23_9C26_9C27_9C28_9C29_9C2A_9C31_9C35_9C36_9C37_9C3D_9C41_9C43_9C44_9C45⟩,
  ⟨0x6B40, 0x9C49_9C4A_9C4E_9C4F_9C50_9C53_9C54_9C56_9C58_9C5B_9C5D_9C5E_9C5F_9C63_9C69_9C6A⟩,
  ⟨0x6B50, 0x9C5C_9C6B_9C68_9C6E_9C70_9C72_9C75_9C77_9C7B_9CE6_9CF2_9CF7_9CF9_9D0B_9D02_9D11⟩,
  ⟨0x6B60, 0x9D17_9D18_9D1C_9D1D_9D1E_9D2F_9D30_9D32_9D33_9D34_9D3A_9D3C_9D45_9D3D_9D42_9D43⟩,
  ⟨0x6B70, 0x9D47_9D4A_9D53_9D54_9D5F_9D63_9D62_9D65_9D69_9D6A_9D6B_9D70_9D76_9D77_9D7B_0000⟩,
  ⟨0x6C20, 0x0000_9D7C_9D7E_9D83_9D84_9D86_9D8A_9D8D_9D8E_9D92_9D93_9D95_9D96_9D97_9D98_9DA1⟩,
  ⟨0x6C30, 0x9DAA_9DAC_9DAE_9DB1_9DB5_9DB9_9DBC_9DBF_9DC3_9DC7_9DC9_9DCA_9DD4_9DD5_9DD6_9DD7⟩,
  ⟨0x6C40, 0x9DDA_9DDE_9DDF_9DE0_9DE5_9DE7_9DE9_9DEB_9DEE_9DF0_9DF3_9DF4_9DFE_9E0A_9E02_9E07⟩,
  ⟨0x6C50, 0x9E0E_9E10_9E11_9E12_9E15_9E16_9E19_9E1C_9E1D_9E7A_9E7B_9E7C_9E80_9E82_9E83_9E84⟩,
  ⟨0x6C60, 0x9E85_9E87_9E8E_9E8F_9E96_9E98_9E9B_9E9E_9EA4_9EA8_9EAC_9EAE_9EAF_9EB0_9EB3_9EB4⟩,
  ⟨0x6C70, 0x9EB5_9EC6_9EC8_9ECB_9ED5_9EDF_9EE4_9EE7_9EEC_9EED_9EEE_9EF0_9EF1_9EF2_9EF5_0000⟩,
  ⟨0x6D20, 0x0000_9EF8_9EFF_9F02_9F03_9F09_9F0F_9F10_9F11_9F12_9F14_9F16_9F17_9F19_9F1A_9F1B⟩,
  ⟨0x6D30, 0x9F1F_9F22_9F26_9F2A_9F2B_9F2F_9F31_9F32_9F34_9F37_9F39_9F3A_9F3C_9F3D_9F3F_9F41⟩,
  ⟨0x6D40, 0x9F43_9F44_9F45_9F46_9F47_9F53_9F55_9F56_9F57_9F58_9F5A_9F5D_9F5E_9F68_9F69_9F6D⟩,
  ⟨0x6D50, 0x9F6E_9F6F_9F70_9F71_9F73_9F75_9F7A_9F7D_9F8F_9F90_9F91_9F92_9F94_9F96_9F97_9F9E⟩,
  ⟨0x6D60, 0x9FA1_9FA2_9FA3_9FA5_0000_0000_0000_0000_0000_0000_0000_0000_0000_0000_0000_0000⟩]

def jisX0212 : CodeTable := .ofColumns jisX0212Columns

end CodeExtension.Standard
