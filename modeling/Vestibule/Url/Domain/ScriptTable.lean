import Vestibule.Text.CodeTable

/-! How characters are written in a line, as data. Code points are in base 16. -/

namespace Vestibule.Domain

/-- Characters that are not written from left to right: 1 from right to left, 2 European digits, 3
Arabic digits, 4 whatever fits both directions. A few marks have a direction, 0 for left to right. -/
def directionCodes : CodeTable := CodeTable.read [
  "0-2F:4 30-39:2 3A-40:4 5B-60:4 7B-7F:4 A1-A7:4 A9:4 AB-AC:4 AE:4 B0-B1:4 B6-B7:4 BB:4 BF:4",
  "D7:4 F7:4 2B9-2BA:4 2C2-2CF:4 2D2-2D7:4 2DE-2DF:4 2E5-2ED:4 2EF-2FF:4 375:4 3F6:4 58A:4",
  "58D-58F:4 5BE:1 5C0:1 5C3:1 5C6:1 5D0-5EA:1 5EF-5F4:1 606-607:4 608:1 609-60A:4 60B:1 60C:4",
  "60D:1 60E-60F:4 61B:1 61D-64A:1 660-669:3 66A:4 66B-66C:3 66D-66F:1 671-674:1 679-6D5:1",
  "6DE:4 6E5-6E6:1 6E9:4 6EE-6EF:1 6F0-6F9:2 6FA-70D:1 710:1 712-72F:1 74D-7A5:1 7B1:1",
  "7C0-7EA:1 7F4-7F5:1 7F6-7F9:4 7FA:1 7FE-815:1 81A:1 824:1 828:1 830-83E:1 840-858:1 85E:1",
  "860-86A:1 870-88F:1 8A0-8C9:1 9F2-9F3:4 9FB:4 AF1:4 BF3-BFA:4 C78-C7E:4 CBF:0 CC6:0 E3F:4",
  "F3A-F3D:4 1390-1399:4 1400:4 169B-169C:4 17DB:4 17F0-17F9:4 1800-180A:4 1940:4 1944-1945:4",
  "19DE-19FF:4 200C-200D:4 2010:4 2012-2016:4 2018-2023:4 2027:4 2030-2032:4 2035:4 2038-203B:4",
  "203D:4 203F-2046:4 204A-2056:4 2058-205E:4 20A0-20A7:4 20A9-20C1:4 2104:4 2108:4 2114:4",
  "2117-2118:4 211E-211F:4 2123:4 2125:4 2127:4 2129:4 212E:4 213A:4 2141-2144:4 214A-214D:4",
  "218A-218B:4 2190-222B:4 222E:4 2231-2328:4 232B-2335:4 237B-2394:4 2396-2429:4 2440-244A:4",
  "24EB-26AB:4 26AD-27FF:4 2900-2A0B:4 2A0D-2A73:4 2A77-2ADB:4 2ADD-2B73:4 2B76-2BFF:4",
  "2CE5-2CEA:4 2CF9-2CFF:4 2E00-2E5D:4 2E80-2E99:4 2E9B-2E9E:4 2EA0-2EF2:4 3001:4 3003-3004:4",
  "3008-3020:4 3030:4 3037:4 303D-303F:4 30A0:4 30FB:4 31C0-31E5:4 4DC0-4DFF:4 A490-A4C6:4",
  "A60D-A60F:4 A673:4 A67E-A67F:4 A700-A721:4 A788:4 A828-A82B:4 A838-A839:4 A874-A877:4",
  "AB6A-AB6B:4 FBB2-FBC2:1 FBC3-FBD2:4 FD3E-FD4F:4 FD90-FD91:4 FDC8-FDCF:4 FDFD-FDFF:4",
  "FE45-FE46:4 FE73:1 10101:4 10140-1018C:4 10190-1019C:4 101A0:4 102E1-102FB:2 10800-10805:1",
  "10808:1 1080A-10835:1 10837-10838:1 1083C:1 1083F-10855:1 10857-1089E:1 108A7-108AF:1",
  "108E0-108F2:1 108F4-108F5:1 108FB-1091B:1 1091F:4 10920-10939:1 1093F-10959:1 10980-109B7:1",
  "109BC-109CF:1 109D2-10A00:1 10A10-10A13:1 10A15-10A17:1 10A19-10A35:1 10A40-10A48:1",
  "10A50-10A58:1 10A60-10A9F:1 10AC0-10AE4:1 10AEB-10AF6:1 10B00-10B35:1 10B39-10B3F:4",
  "10B40-10B55:1 10B58-10B72:1 10B78-10B91:1 10B99-10B9C:1 10BA9-10BAF:1 10C00-10C48:1",
  "10CC0-10CF2:1 10CFA-10D23:1 10D30-10D39:3 10D40-10D4F:1 10D6E:4 10D6F-10D85:1 10D8E-10D8F:1",
  "10E60-10E7E:3 10E80-10EA9:1 10EAD:1 10EB0-10EB1:1 10EC2-10EC7:1 10ED0-10ED8:4 10F00-10F27:1",
  "10F30-10F45:1 10F51-10F59:1 10F70-10F81:1 10F86-10F89:1 10FB0-10FCB:1 10FE0-10FF6:1",
  "11052-11065:4 11660-1166C:4 11A07-11A08:0 11C3F:0 11FD5-11FF1:4 16FE2:4 1CC00-1CCD5:4",
  "1CCFA-1CCFC:4 1CD00-1CEB3:4 1CEBA-1CED0:4 1CEE0-1CEF0:4 1D1E9-1D1EA:4 1D200-1D241:4 1D245:4",
  "1D300-1D356:4 1E2FF:4 1E800-1E8C4:1 1E8C7-1E8CF:1 1E922-1E943:1 1E94B:1 1E950-1E959:1",
  "1E95E-1E95F:1 1EC71-1ECB4:1 1ED01-1ED3D:1 1EEF0-1EEF1:4 1F000-1F02B:4 1F030-1F093:4",
  "1F0A0-1F0AE:4 1F0B1-1F0BF:4 1F0C1-1F0CF:4 1F0D1-1F0F5:4 1F10B-1F10F:4 1F12F:4 1F16D-1F16F:4",
  "1F1AD:4 1F260-1F265:4 1F300-1F6D8:4 1F6DC-1F6EC:4 1F6F0-1F6FC:4 1F700-1F7D9:4 1F7E0-1F7EB:4",
  "1F7F0:4 1F800-1F80B:4 1F810-1F847:4 1F850-1F859:4 1F860-1F887:4 1F890-1F8AD:4 1F8B0-1F8BB:4",
  "1F8C0-1F8C1:4 1F8D0-1F8D8:4 1F900-1FA57:4 1FA60-1FA6D:4 1FA70-1FA7C:4 1FA80-1FA8A:4",
  "1FA8E-1FAC6:4 1FAC8:4 1FACD-1FADC:4 1FADF-1FAEA:4 1FAEF-1FAF8:4 1FB00-1FB92:4 1FB94-1FBEF:4",
  "1FBFA:4"]

/-- Letters that join others in writing: 1 on the left, 2 on the right, 3 on both sides; 0 where the
letter does not count. -/
def joiningCodes : CodeTable := CodeTable.read [
  "620:3 622-625:2 626:3 627:2 628:3 629:2 62A-62E:3 62F-632:2 633-63F:3 641-647:3 648:2",
  "649-64A:3 66E-66F:3 671-673:2 675-677:2 678-687:3 688-699:2 69A-6BF:3 6C0:2 6C1-6C2:3",
  "6C3-6CB:2 6CC:3 6CD:2 6CE:3 6CF:2 6D0-6D1:3 6D2-6D3:2 6D5:2 6EE-6EF:2 6FA-6FC:3 6FF:3 710:2",
  "712-714:3 715-719:2 71A-71D:3 71E:2 71F-727:3 728:2 729:3 72A:2 72B:3 72C:2 72D-72E:3 72F:2",
  "74D:2 74E-758:3 759-75B:2 75C-76A:3 76B-76C:2 76D-770:3 771:2 772:3 773-774:2 775-777:3",
  "778-779:2 77A-77F:3 7CA-7EA:3 840:2 841-845:3 846-847:2 848:3 849:2 84A-853:3 854:2 855:3",
  "856-858:2 860:3 862-865:3 867:2 868:3 869-86A:2 870-882:2 886:3 889-88D:3 88E:2 88F:3",
  "8A0-8A9:3 8AA-8AC:2 8AE:2 8AF-8B0:3 8B1-8B2:2 8B3-8B8:3 8B9:2 8BA-8C8:3 1807:3 1820-1878:3",
  "1887-18A8:3 18AA:3 A840-A871:3 A872:1 10AC0-10AC4:3 10AC5:2 10AC7:2 10AC9-10ACA:2 10ACD:1",
  "10ACE-10AD2:2 10AD3-10AD6:3 10AD7:1 10AD8-10ADC:3 10ADD:2 10ADE-10AE0:3 10AE1:2 10AE4:2",
  "10AEB-10AEE:3 10AEF:2 10B80:3 10B81:2 10B82:3 10B83-10B85:2 10B86-10B88:3 10B89:2",
  "10B8A-10B8B:3 10B8C:2 10B8D:3 10B8E-10B8F:2 10B90:3 10B91:2 10BA9-10BAC:2 10BAD-10BAE:3",
  "10D00:1 10D01-10D21:3 10D22:2 10D23:3 10EC2:2 10EC3-10EC4:3 10EC6-10EC7:3 10F30-10F32:3",
  "10F33:2 10F34-10F44:3 10F51-10F53:3 10F54:2 10F70-10F73:3 10F74-10F75:2 10F76-10F81:3",
  "10FB0:3 10FB2-10FB3:3 10FB4-10FB6:2 10FB8:3 10FB9-10FBA:2 10FBB-10FBC:3 10FBD:2",
  "10FBE-10FBF:3 10FC1:3 10FC2-10FC3:2 10FC4:3 10FC9:2 10FCA:3 10FCB:1 1E900-1E943:3 1E94B:0"]

end Vestibule.Domain
