import CertScope.Text.Base64
import CertScope.Trust.PathCertificate

/-!
# The bundled root program

The roots that are trusted where the operating system has none: the Mozilla
root program. Each root is the Base64 form of its name, its key and, where the
program restricts it, its name constraints, behind each other.
-/

namespace CertScope.RootProgram

open PathReader

def blocks : List (List String) := [
  ["MDQxCzAJBgNVBAYTAkZSMRIwEAYDVQQKDAlEaGlteW90aXMxETAPBgNVBAMMCENlcnRpZ25hMIIBIjANBgkqhkiG9w0B",
    "AQEFAAOCAQ8AMIIBCgKCAQEAyGjxydbWszR1JoIe7LS+6lzhJu0RR2HhonwWeEAh5GCeWshj4cSxlpL/GG1pI+ErYvfd",
    "4jYvkQe5SM8O7Hm2LOc0S3AIJaM8hxsZ8oEHDziQGdMR/oa08tFeHh6WzYBszjsxk7byoNCplRJ9pZrMa8iEVoozqeci",
    "FVMW8MwX7Fdf6aIKmAne41+cb9xI44ULFVqmup+sSOMJsvf0Mt5eNL4ceF1CW84OIo9NkNd9MhizCyxqv44/FBGJIA53",
    "FLU9lAiH9yUe1bJgAOxvKiglbio+GGMXJT8+RCAW9ibIJa4FSrTnYyzzjBZTflz7ERoIwUZinyK48cKNadz6OlgG3wID",
    "AQAB"],
  ["MDcxFDASBgNVBAoMC1RlbGlhU29uZXJhMR8wHQYDVQQDDBZUZWxpYVNvbmVyYSBSb290IENBIHYxMIICIjANBgkqhkiG",
    "9w0BAQEFAAOCAg8AMIICCgKCAgEAwr7rJ/Aho/NpJlV+ncVVFpFc/e8hv1OAei3SkYxjMfDsJPDDpdJyfBBt9De35eZ8",
    "eeqMtYKLrki2rADcZXXsKk1fwYf1IGUrgahHPokjlTAWkH/oVwdI5xmuv0VnsTcbBir+3vmsfYP7Xrrkj5dnvkuOjWQH",
    "VzhVaTQ2PRNI70/i02YepM8at142M9S0Br0YAf13hFAARfWMXegjvH7+NeHtUHupMI0Z0wmOaGddvzyXGFO7KWLFyl5y",
    "wceW1NstoLQfaQPs6uJQ8Qw88KzzUy3wHPXtbDk5c4AWyFKwI83gPtzdPEeguzWK4phoi77lv3Lu0vql7RLt/JgYqSZ2",
    "3ChLECAc038Wdy3tb4D3SbtTBbtdaMfUyHUWP4lai/cXR9RM8dKJeT5NPZioYd46HtL4XgPgwckcjNONTdOVNrM3X2Nj",
    "mzMU8C0ma1N8iYwywm7sPSEAOcmhaOJQgy6wOivzNqCsL+RvYcJRCTk+i1O5u2fa3FO5dlk2nUPlIOA9MmCFIlG3xzO7",
    "3RUvpHimB3uBRjYEht15NceVLDuwoxc15XMftFxZ79rqEGV7etB/n7O0Kjc7cIubW7krt+yyURKXUyla1PASENxPArsS",
    "ki9i1D9pQ3wN1vxYdQGInVgWS966kP9HAYkGavZfspBqswKmAoi/s0d+KtnV+mh4NU0CAwEAAQ=="],
  ["MDgxCzAJBgNVBAYTAkVTMRQwEgYDVQQKDAtJWkVOUEUgUy5BLjETMBEGA1UEAwwKSXplbnBlLmNvbTCCAiIwDQYJKoZI",
    "hvcNAQEBBQADggIPADCCAgoCggIBAMnTesoPHqynhugWZWqxwhtFMnGV2f4QW8yv56V5AY+Jw8ryVXH3d753lPNypCxE",
    "2J6SmxQ6oeckkAoKVo7F2CaU4dlI4S0+2gpy3aOZFdqBoof0e24md4lYrdbrDLJBenNubdt6eEHpCIgSfocuZhFjbFT7",
    "PJ1ywLwu/8K33Q124zrX97RovqL144FuwUZvXY3gTcZUVYkaMzEKsVe5o4qYw+w7NMWVQWl+dcI8IMVhulFHoCCQk6GQ",
    "S/NOfIVFVJrRBSZBsLVNHTO+xAPIJXzBcNs79AktVCdIrC/hxKw+yMuSTFM5NyPs0wH54AlETU1kwOENWocivK0bo/4m",
    "tRXzp/yEGensoYi0RGmEg/OJ0XQGqcwL1sLeJ4VQJsoXuMl6h1YsGgEebL4TrRCstST1OJGh1kva8bvS3ke18byB9llr",
    "zxlT6Y0Vy0rLqW9E5RtBz+GGp8rQap+8TI0GM1qiheWQNaBiXBZO8OOi+gMatCxxs1gs3nsL2xoP694hHwZ3BgOwye+Z",
    "/MC5TwuGKP7Suerj2qXDR2kS4Nvw9hmL7Xtw1wLW7YcYKCwEJEx35EiKGsY7mtQPyvp10gFAWo15v4vPS8+qFsGV5K1M",
    "ij4XkdSxYuWC5YAEpAN+jb/af6IPl08M0w3719Hlcn4cyHf/W5oPt64FRuXxqBbsR6QXAgMBAAE="],
  ["MDkxCzAJBgNVBAYTAlVTMQ8wDQYDVQQKEwZBbWF6b24xGTAXBgNVBAMTEEFtYXpvbiBSb290IENBIDEwggEiMA0GCSqG",
    "SIb3DQEBAQUAA4IBDwAwggEKAoIBAQCyeIBxynjV43GvR4BQdH1u2NeIdvSZaPdYIWD5dIQBL6wCLYbToEN6TrKk0Da6",
    "Ab6N20jIBxc2TPTuiCPHPus39bUZ+ElosN7XuXY4HWGepP6CNqXlSlbkReH5/bQW+nTanJs1OS/6sCBQBmx60ICypvmv",
    "7EcZj1A4B9yihzlY+LrVqflIZzCW7pR4Xm+Jo1HAMIZmoUVmulTro8OR+Ujc/9HoMC19LXRwNdeIJPeexFluu3OHF/Iy",
    "Rii4Q/q3HarKtPKfJA4tS/dxXF5p/+qVAss4iq5QOG/b+y1iG8XHHlThd+BnyA+chyPWP0AgfyCAxIBMPjskJo4Ermya",
    "yKoNAgMBAAE="],
  ["MDkxCzAJBgNVBAYTAlVTMQ8wDQYDVQQKEwZBbWF6b24xGTAXBgNVBAMTEEFtYXpvbiBSb290IENBIDIwggIiMA0GCSqG",
    "SIb3DQEBAQUAA4ICDwAwggIKAoICAQCtlp8tnEpMSoF5UZnsistrYFETvE1tBvywCI3dGRBqxyYMNdjAbyCE6ZSxm4UD",
    "w1vbSujI+JB22VtP40zoBjZNzJqsPQyQK5LUBhlgrDdEeYWBgq1aN+ANzJ2mTFJ26kOdtwTRUPZV4NXSpkmF6Tfpyn6u",
    "XJVNSJo/riBabYiV2TS4UhpDkLC/bAW5tni36tDkOjwSU2L/SvJ7vjUFqRI04/NkdGIsPQBJWij+MkS7h91lJwJxO9pK",
    "9x/azfchVZBPD+yuguGfa9lF07vwX4ftPCw5hto/3uxyVet5o63b3XywuhzO/N5PNXbPD/h4H2o2UUYnYVvpns/wolV9",
    "fCWKby+0xc+ELiv9DVEQbPtfG7wbfsWuO5gBMZL/C1f0mrK5V+mr7w120fDu9M6Gp+Bu6bRpod9p9jPGaS6XE56lh7BX",
    "EIE3yVOzu3/2ktGc0Bj0km7ag0+mY5lMpfte7yFkeiBfbGSFFcs36WIMCyoW3AEuMto+S/WeOvYXQJTvnpEIhvq+Y6ha",
    "M+zLdEOV+WxpUjbHKW/8VQNcH/ufvUfr50lHlQtOiSIJSeD1YR7xvy6Kcm6AWf9XOvl1MqNOX+ztKGLZTXPyzIEXYO3N",
    "69zbp8rFfgK98lQIVP20LQksF1RKmNFU4VFnCNLtbn5vP9ItgVkpZsuQOZURHnQn/t3rrwIDAQAB"],
  ["MDkxCzAJBgNVBAYTAlVTMQ8wDQYDVQQKEwZBbWF6b24xGTAXBgNVBAMTEEFtYXpvbiBSb290IENBIDMwWTATBgcqhkjO",
    "PQIBBggqhkjOPQMBBwNCAAQpl6fGQX/ADZvoARtWxvJSpbotshLo0i7X+snF2KptH3OBOzuYazl8M6XFToaOgBdoYkVX",
    "fURYHbM35WcI62be"],
  ["MDkxCzAJBgNVBAYTAlVTMQ8wDQYDVQQKEwZBbWF6b24xGTAXBgNVBAMTEEFtYXpvbiBSb290IENBIDQwdjAQBgcqhkjO",
    "PQIBBgUrgQQAIgNiAATSq4o3T6NTDf7BintLqHtGS2OwYvYtG9sIcSHSAOhjvZon+/A5bl3qPaXJgaqjWyCYRV0W2/3o",
    "EG3jnODjvV+EYvNwZDOgyyQvcLqIoSqgdfiBrmIGxIHbOW4psB76Llw="],
  ["MDsxCzAJBgNVBAYTAkVTMREwDwYDVQQKDAhGTk1ULVJDTTEZMBcGA1UECwwQQUMgUkFJWiBGTk1ULVJDTTCCAiIwDQYJ",
    "KoZIhvcNAQEBBQADggIPADCCAgoCggIBALpxgHpMhm5/yBNtwMZ9HACXjywMI7sQmkCpGreHiPibVmr75nuOi5KOpyVd",
    "WRHbNi63URcfqQgfBBckWKo3Shjf5TnUV/3XwSyRAZHiItQDwFj8d0fsjz50Q7qsNI1NOHZnjrDIbzAzWHFctPVrbtQB",
    "ULgTfmxKo0nRIBnuvMApGGWn3v7v3QqQIecaZ5JCEJhfTzC8PhxFtBDXaEAUwED653cXeuYLj2VbPNmaUtu1vZ5Gzz3r",
    "kQUCwJaydkxNEJY7kvqcfw+Z374jNUUeAlz+taibmSXaXvMiwzn15Cou08YfxGyqxRxqAQVKL9LFwag0Jl1mpdICIfkY",
    "twb1TplvqKtMUejPUBjFd8g5CSxJkjKZqLsXF3mwWsXmo8RZZUc1g16p6DULmbvkzSDGm0oGObVo/CK67lWMK07q87Hj",
    "/LaZmtVC+nFNCM+HHmpxffnTtOmlcYF7wk5HlqX2doWjKI/pgG6BU6VtX7hI+cL5NqYuSf+4lsKMB7ObiFj86xsc3i1w",
    "4peSMKGJ47xVqCfWS+2QrYv6YyVZLag13cqXM7zlzced0ezvXg5KkAYmY6252TUtB7p2ZSysV4999AeU14ECll2jB0nV",
    "etBX+RvnU0Z1qrB5QstocQjpYL05ac70r8NWQMetUqIJ5G+GR4of6ygnXYMgrwTJbFaai0b1AgMBAAE="],
  ["MDsxCzAJBgNVBAYTAlJPMREwDwYDVQQKEwhjZXJ0U0lHTjEZMBcGA1UECxMQY2VydFNJR04gUk9PVCBDQTCCASIwDQYJ",
    "KoZIhvcNAQEBBQADggEPADCCAQoCggEBALczuX7IJUqOtdu0KBuqV5Do0SLTZLrTk+jUrIZhQGpgV2hUhE28alQCBf/f",
    "m5oqrl0Hj0rDKH/v+yv6efHHrfAQUySQi2bJqIirr1qjAOm+ukbuW3N7LBeCgV5iLKECZbO9xSsAfsT8AzNXDe3i+s5d",
    "RdY4zTW2ssHQnIFKquSyAVwdj1+ZxLGt24gh65AIgoDzMKND5pCCrlUoSe1b16kQOA7+j0xbm0bqQfWwCHTD0IgztnzX",
    "dN/chNFDDnU5oSVAKOp4yw4sLjmdjItuFhwvJoIQ4uNllAoEwF73XVv4EOLQunpL+943AAAaWyjj0pxzPjKHmKHJUS/X",
    "3qwzs08CAwEAAQ=="],
  ["MDwxHjAcBgNVBAMMFUF0b3MgVHJ1c3RlZFJvb3QgMjAxMTENMAsGA1UECgwEQXRvczELMAkGA1UEBhMCREUwggEiMA0G",
    "CSqGSIb3DQEBAQUAA4IBDwAwggEKAoIBAQCVhTuXbyo7LjvPpvMpNb7PGKw+qtn4TaA+Gke5vJrf8v7MPkfoepbCJI41",
    "9KkM/IL9bcFyYie96mvr54rMVD6QUM+A1JX76LWC1BTFtqlVJVfbsVD2sGBkWXppzwO3bw2+yj5vdHLqqjAqc2K+SZFh",
    "yBH+DgMq92og3AIVDV4VavzjgsG1xZ1kCWyjWZgHJ8cblithdHFsQ/H3NYkQ4J7sVaE3IqKHBAUsR320HLliKWYoyrfh",
    "k/WklAOZuXCFteZI6o1Q/NnezG8HDt0Lcp2AMBYHlT8oDv3FdU9T1nSatCQujgKRz3bFmx5VdJx4IbHwLfELn8LVlhgf",
    "8FQieowHAgMBAAE="],
  ["MD0xCzAJBgNVBAYTAkNOMREwDwYDVQQKDAhVbmlUcnVzdDEbMBkGA1UEAwwSVUNBIEdsb2JhbCBHMiBSb290MIICIjAN",
    "BgkqhkiG9w0BAQEFAAOCAg8AMIICCgKCAgEAxeYrb3zvJgUno4Ek2m/LAfmZmqkywiKHYUGRO8vDaBsGxUypK8FnFyId",
    "K+35KYmToni9kmugow2ifsqTs6bRjDXVdfkX9s9FxeV67HeToI8jrg4aA3++1NDtLnurRiNb/yzmVHqUwCoV8MmNsHo7",
    "JOHXaOIxPAYzRrZUEaalLyJUKlgNAQLx+hVRZ2zA+te2G3/RVogvGjqNO7uCEeBHANBSh6v7hn4PJGtAnTRnvI3HLYZv",
    "eT6OqTwXS3+wmeOwcWDcC/Vkw85DvG1xudLeJ1uK6NjGruFZfc8oLTW4lVYa8bJYS7cSN8h8s+1LgOGN+jIjtm+3SJUI",
    "sUROhYw6AlQgL9+/V087OpAh18EmNVQg7Mc/R+zvWr9LesGtOxdQXGLYD0tK3Cv6brxzks3sx1DoQZbXqX5t2Okdj4q1",
    "uViSukqSKwxW/YDrCPBeKW4bHAyvj5OJrdu9o54hyokZ7N+1wxrrFv54NkzWbtA+FxyQF2smuvt6L78RHBgOLXMDj6Dl",
    "NaBa4kx1HXHhOThTeEDMg5PXCp6dW4+K5OXgSORIskfNTip1KnvyIvbJvgmRlld6iIis7nCs+dwp4wwcOxJORNanTrAm",
    "yPPZGpeRaOrvjUYG0lZFWJo8DA+DuAUlwznPO6Q0ibd5Ei9Hxeepl2n8pndntd978XplFeRhVmUCAwEAAQ=="],
  ["MD0xCzAJBgNVBAYTAlVTMRIwEAYDVQQKEwlDZXJ0YWlubHkxGjAYBgNVBAMTEUNlcnRhaW5seSBSb290IEUxMHYwEAYH",
    "KoZIzj0CAQYFK4EEACIDYgAE3m/4fxzf7flHh4axpMCK+IKXgOqPyEpeKn2IaKcBYhSRJHpcnqMXfYqGITQYUBsQ3tA3",
    "SybHGWCA6TS9YBk2QNYphwk8kXr2vBMj3VlOBF7PyAIcGFPBMdjaIOlEjeR2"],
  ["MD0xCzAJBgNVBAYTAlVTMRIwEAYDVQQKEwlDZXJ0YWlubHkxGjAYBgNVBAMTEUNlcnRhaW5seSBSb290IFIxMIICIjAN",
    "BgkqhkiG9w0BAQEFAAOCAg8AMIICCgKCAgEA0DbUH+rdq+TRtub7IsDdEw1qeyITHJc8aGNmMpwDtY2kgYPaeDARz9yy",
    "K76Sv47kxBO+pGhM2gJoFnS+st0E5Gsq3TcfYCzb9fehfJW3DHCGLvE671L3zNOb+Yu+Dt8xt51oXJKm9eXzCjS1/3ui",
    "5Iehxq8XAO8Dke2pHE5xPdKLbIn0eIbmakmgzrXSsKub9vTULuNy+TbG6xW3JYw6/CUNsyJzIXTISpZhkvUvCxil9K3i",
    "7kG9AXn6loyNFwIwtPmveBqMtDYQEAcFcND0MZCKUcWGJnmyEYhexfAKVM1Jpr8CnNJEp+3jeO9GXm1x0XlwHEZfUenJ",
    "N9xffml7Qd80ReA7hPShigo2njfMYlLhiQ0o+XojsQ09PZr9nYHvLJDAe0ROu0ngDkpWkrzLtd15F4mR3mGJdJKo4zKF",
    "vk6FpEtZyyvFeI5xVNACN5mM5Unq4FRypBEGLwuMwVu+taGwU26cuGCRH1lr+S30lAqXtezFdgNUG2VSukySVlE1oEDY",
    "KduuUnY7LTBAm4rQQla0t4gBpIc7U5bNoxaP82aqF7HHYODBQwUM7ptbYG8GXIdbJ/lAEZ6cM8G35TVXBX8nzhcgjBz8",
    "8fvaMSlJ7fULhKdPwfZOwiic+u7grwf7MxF6IU8LIRC2QDqrIjoEnIubhIZymtKnpcS0dZGpKyMCAwEAAQ=="],
  ["MEExCzAJBgNVBAYTAlJPMRQwEgYDVQQKEwtDRVJUU0lHTiBTQTEcMBoGA1UECxMTY2VydFNJR04gUk9PVCBDQSBHMjCC",
    "AiIwDQYJKoZIhvcNAQEBBQADggIPADCCAgoCggIBAMDFdRmRfUR0dIf+DjuW3NgBFszuY5HnC2/OOwppGnzC46+CjobX",
    "Xo9X69MhWf05N0IwvlDqtg+piNguLWkh59E3GE59kdUWX2tbAMI5Qw02hVK5U2UPHULlj88F0+7cDBrZuIt4ImfkabBo",
    "xTzkbFpG583H+u/E7Eu9aqSs/cwoUe+StCmrqzWaTOTECMYmzPhpn+Sc8CnTXPnGFiWeI8MgwT0PPzhAsP6CRDiqWhqK",
    "a2NYOLQV07YRaXseVO6MGiKscpc/I1mbySKEwQdPzH/iV8oScLumZfNpdWO9lfsbl83kqK/20U6o2YpxJM02PbyWxPFs",
    "qa7lzw1uKA2wDrXKUXt4FMMgL3/7FFXhEZn91QqhngLjYl/rNUssuHLoPj1PrCy7Lobio3aP5ZMqz6WryFyNSwb/Ekas",
    "eMsUBzXgqd+L6a8VTxaJW732jcZZroiFDsGJ6x9nxUWO/203Nit4ZoORUSs9/1F3dmKh7Gc+PoGD4FapUB8fepmrY7+E",
    "F3fxDTvf95xhszWYijqy7DwaNz9+j5LP2RIUZNoQAhVB/0/E6xyjyfqZ90bp4RjZsbgyLcsUDFDYg2WD7rlcz8sFWkz6",
    "GZdr1l0T08JcVLwyc6B49fFtHsufpaafItzRUZ6CeWRgKRM+o/1Pcmqr4tTluCRVLERLiohEnMqE0yo7AgMBAAE="],
  ["MEExCzAJBgNVBAYTAlVTMRQwEgYDVQQKDAtBZmZpcm1UcnVzdDEcMBoGA1UEAwwTQWZmaXJtVHJ1c3QgUHJlbWl1bTCC",
    "AiIwDQYJKoZIhvcNAQEBBQADggIPADCCAgoCggIBAMQS36lf/kHd3fWfiuP2rOE8eJq82PB/eqAzKtyNIFuuLW/nk9k2",
    "cGpoz45Ro4VbZwSgECRvXSiCwZdX2EgpE7bhvpFN34UMUxiaHiSiT4/wooULy/Qpf9KkWO4mTcmqqHua2fo43kRXFeX4",
    "jMjZSOINFicdHsiDhSW3uqpVQcwDIkstkY2L5omvZsfp/yvpPKza0rPD4Wicifh6AFbe9FWVbPu6ZN1ii98LdzLrYswm",
    "mpu7qmKDTLQGejDIKb/tBk2XuRzEMSvVX7xTEhecmVcpZndhITEHLiVJnRjy7vMrcYy1ujkHSXf87y6SkAWNLS93e+9D",
    "vzW7mtj5c6cs8tBX7ihOJl+PkGgJL7j43AbpLpo+UafRIsQKpzhIbLP5/32rhlfjutaFeHe6Q+pIf/bYviNtHr/RNmxY",
    "XPHupBlUGvUD0nbm4Yy9PLPTSEviyPh/kqh2RpxCZT6kHsEHA1pGLbiX87fVslUh77rcTACX+xSVJzO/6ENHRtIImRZg",
    "O5p+0ubtOOrsAR48SFZJCcdMNwCeiA7Ac+FvZulyRzA+EOULA8maQgBsxZR+YcSK33+CGgtZxFkyd7O8YGlWOf20Bnss",
    "1mQ22b1I7YQffqUijyq4QvSCt9RTkHhOLRr9gW9E1zsBdJZC4ADiLmvqxe5yrLu//uqqqPjc9rJ5irZnAgMBAAE="],
  ["MEIxEjAQBgNVBAMMCUFDQ1ZSQUlaMTEQMA4GA1UECwwHUEtJQUNDVjENMAsGA1UECgwEQUNDVjELMAkGA1UEBhMCRVMw",
    "ggIiMA0GCSqGSIb3DQEBAQUAA4ICDwAwggIKAoICAQCbqau/YUqXry+XZpp0X9DZlv3P4uRm7x8fRzPCRKPfmt4ftVTd",
    "FXxpNRFvu8gMjmoYHtiP2Ra8EEg2XPBjs5BaXCQ316PWywlxufEBcoSwfdtNgM3802/J+Nq2DoLSRYWoG2ioPej0RGy9",
    "ocLLA76MPhMAhN9KSMDjIgro6TenGEyxCQ0jVn8ETdkXhBilyNpAlHPrzg5XPAOBOp0KoVdDaaxXbXmQeOW1tDvYvEyN",
    "KKGno6e6Ak4l0Squ7a4DIrhrIA8wKFSVf+DuzgpmndFALW4ir50awQUZ0m/A8p/4e7MCQvtQqR0tkw8jq8bBD5L/0KIV",
    "9VMJcRz/RROE5iZe+OCIHAr8Fraocwa48GOEAqDGWuzndN9wrqODJerWx5eHk6fGioozl2A3ED6XPm4pFdahD9GILBKf",
    "b6qkxkLrQaLjlUPTAYVtjrs78yM2x/474KElB0iryYl0/wiPgL/AlmXz7uxLaL2diMMxs0Dx6M/2OLuc5NF/1OVYm3z6",
    "1PMOm3WR5LpSLhl+0fXNWhn8ugb2+1KoS5kE3fj5tItQo05iifCHJPqDQsGH+tUtKSpacXpkatcnYGMN285J9Y0fkIky",
    "F/hzQ7jSWpOGYdbhdQrqeWZ2iE9x6wQl1gpaepPluUsXQA+xtrn13k/c4LOsOxFwYIRKQ26ZIMApcQrAZQIDAQAB"],
  ["MEMxCzAJBgNVBAYTAkNOMRwwGgYDVQQKExNpVHJ1c0NoaW5hIENvLixMdGQuMRYwFAYDVQQDEw12VHJ1cyBSb290IENB",
    "MIICIjANBgkqhkiG9w0BAQEFAAOCAg8AMIICCgKCAgEAvVV8YdO4HQRiBaCubLdwtEHqSwNeED+QWhyLO7Bmi2xIphwi",
    "utVAku4zsiNZyY68WNqLntAZ8i9ZxoxjWrqfowuws5pcuhG4EukMu89ubICHKRQDLI0kmshkg7VqrBMsM/Gf3CxhPBo/",
    "cFWbrQBSf88Euf42+pzAFq5i/pZMQ35VFL4as9Jtwq92ZpVrKrCUd4VeBA9iHWN192vny1uacOw+ZwXw/gcIgM8o2wXG",
    "FCcvhn3wJ97/5n4zSOcLHljRJytTDldKZdf7ooBg/Ey8NVMBapdygq/xHXDonPXvXsJsx0d+WpSFJk07uutM6LAJwmXC",
    "nZ0Jm061lwWs9Qag9zYFfvSQsmvEtPlk6ukaCsgNqO0nydTns7mrgiKQJz0q6HyQ77xP/eIKJKfeZSSkXerAdjDTd1D4",
    "DQSblDYBc8oGWKbTO9z6BEYTVYrJREe4UTkaLug04nnLWUoKf7ym7x8DZ2pZKyVik9lTGWY8J2Iphk2ka+7/1E661bTi",
    "jkhaABkJ8QXZzpGx9+vpOU/2bwRDmlX1PgUUvb+zWbTYjjOEo5BSqrMClWD5DExo+e7VFw34cVe1JeQp7mVdr9HuPBcL",
    "WkPFpYbqJJ7iBQfcNEISkdY5dK5MQYLb8qZI0bOb8zOq86bAxU719J12Y+YCxiJLwZU/UGQsVOW28Dwpz1cCAwEAAQ=="],
  ["MEQxCzAJBgNVBAYTAkZJMRowGAYDVQQKDBFUZWxpYSBGaW5sYW5kIE95ajEZMBcGA1UEAwwQVGVsaWEgUm9vdCBDQSB2",
    "MjCCAiIwDQYJKoZIhvcNAQEBBQADggIPADCCAgoCggIBALLQPwe84nvQa5n44ndp586dpAO8gm2h/oFlH0wnrI4AuhZ7",
    "6zBqAMCzdGh+sq/H1WKzej9Qyow2RCRj0jbpDIX2Q3bVTKFgcmfiKDOlyzG4OiIjNLh9vVYiQJ3q9HsDrWj8soFPmNB0",
    "6o3lfc1jw6P23pLCWBnglrvFxKk9pXSW/q/5iaq9lRdU2HhE8Qx3FZLgmEKnpNaqIJLNwaCzlrI6hEKNfdWV5Nbb6WLE",
    "WLN5xYzTNTODn3WhUidhOPFZPY5Q4L15POdslv5e2QJltI5c0BE0312/UqeBAMN/mUWZFdUXyApT7GPzmX3MaRKGwhfw",
    "AZ6/hLzRUssbkmbOpFPlob/E2wnW5olWK8jjfN7j/4nlNW4o6GwLI1GpJQXrSPjdscr6bAhR77cYbETKJuFzxokGgeWK",
    "rLDiKca5JLNrRBH0pUPCTEPlcDaMtjNXepUugqD0XBCzYYP2AgWGLnwtbNwDRm41k9V6lS/eINhbfpSQBGq6WT0EBXWd",
    "N6IOLj3rwaRSg/7Qa9RmjtzG6RJOHSpXqhC8fF6CfaamyfItufUXJ63RDolUK5X6wK0dmBR4M0KGCqlztft0DbcbMBnE",
    "Wg4cJ7faGND/isgFuvGqHKI3t+ZIpEYslOqodmJHixBTB0hXbOKSTbauBcvcwUpej6w9GU7C7WB1K9vBykLVAgMBAAE="],
  ["MEQxCzAJBgNVBAYTAlVTMRQwEgYDVQQKDAtBZmZpcm1UcnVzdDEfMB0GA1UEAwwWQWZmaXJtVHJ1c3QgQ29tbWVyY2lh",
    "bDCCASIwDQYJKoZIhvcNAQEBBQADggEPADCCAQoCggEBAPYbT2cHK6EV9QYiyx8BsuNzRQZESSy7SSUU1s7Dt6ssT8ZB",
    "MpRX+hKnWw7ijx8ehhmnqrUtuV8NisKvhTV5Mi27HGI38rFbSj3KzXFf6UK+lOjI3vkiSGTG5avGK22tBfD61QvPmuXw",
    "UKSLO0elI1t6evgzP7jvmZfjIMHWKInPlPu5Re3jQBcR1HTwCzHiKyZqm0xXrqwgPrpFegXzvZtpFa59TiBjxDV2OgcC",
    "yTf9x0fu6PF2HXMV8pektch6edlCqit/XP7OJk+jZoE1r0S6VB4cMDJlneY8k15QTnrjOtRuzBr7+dI3riQqq1cDIigN",
    "SXV/tyjadb+O49wOeTECAwEAAQ=="],
  ["MEQxCzAJBgNVBAYTAlVTMRQwEgYDVQQKDAtBZmZpcm1UcnVzdDEfMB0GA1UEAwwWQWZmaXJtVHJ1c3QgTmV0d29ya2lu",
    "ZzCCASIwDQYJKoZIhvcNAQEBBQADggEPADCCAQoCggEBALSEzDMXLmuUbGthUqDro895lEzllICZy1VkRGWPZ2TiBuNc",
    "N0n2L5uEhB4t8mCdME7MhIXiLM8env42qzN3NUTYNZYaPTboeg7Y1UehammL2fy7Oq55WtX01nG7mpAja5q3iHSHDB5f",
    "uZ4t+qtTK9y7dj6TTAgIjB6iIxzUaq0iupkBLm1ly74kZlUkS0BEsRvX4cKFwN4QPz3tuPzx8SNT3L9ll2/Z+UBxjX29",
    "ldTOvqBeJyPe/abQJg4AKes8RvA9YL8/UNLcJkFRnhQ3QgSjcFeoG4ftLfp77owK46lmiRnLQfndRDZhz+J3Rsh99vSS",
    "gTb92zTxcn7zDBa9tBUCAwEAAQ=="],
  ["MEUxCzAJBgNVBAYTAkJNMRkwFwYDVQQKExBRdW9WYWRpcyBMaW1pdGVkMRswGQYDVQQDExJRdW9WYWRpcyBSb290IENB",
    "IDIwggIiMA0GCSqGSIb3DQEBAQUAA4ICDwAwggIKAoICAQCaGMpLlA0ALa8DKYrwD4HIrkwZhR0In6spRIXzL4GtMh6Q",
    "Rr+jhiYaHv5+HBg6XJxgFyo6dIMzMH1hVBHL7avg5tKifvVrbxi3Cgst/ek+7wrGsxDp3MJGF/hd/aTa/55JWpzmM+Yk",
    "lvc/ulsrHHo1wtZn/qtmUIttKGAr79dgw8eTvI02kfN/+NsRE8Scd3bBrrcCaoF6qUWD4gXmuVbBlDePSHFjIuwXZQeV",
    "ikvfj8ZaCuWw419eaxGrDPmF60Tp+ARz8un+XJiM9XOva7R+zdRcAitMOeGylZUtQofX1bOQQ7dsE/He3fbE+Ik/0XX1",
    "ksOR1YqI0JDs3G3eicJlcZaLDQP9nL9bFqyS2+r+eXyt66/3FsvbzSUr5R/7mp/iUcw6UwxI5g69ybR2BlLmEROFcmMD",
    "BOAENisgGQLodKcftslWZvB1JdxnwQ5hYIizPtGo/KPaHbDRsSNU30R2be1B2MGyIrZTHN81Hdyhdyox5C315eXbyOD/",
    "5YDXC2Og/zOhD7osFRXql7PSorW+8oyWHhqPHWykYTe5hnMz15eWniN9gqRMgeKh0bpnX5UHoycR7hYQe7xFSkyyBNKr",
    "79X9DFHOUGoIMfmR2gyPZFwDwzqLID9ujWc9Otb+fVuIyV77zGHcizN300QyNQliBJIWENieJ0f7OyHj+OsdWwIDAQAB"],
  ["MEUxCzAJBgNVBAYTAkJNMRkwFwYDVQQKExBRdW9WYWRpcyBMaW1pdGVkMRswGQYDVQQDExJRdW9WYWRpcyBSb290IENB",
    "IDMwggIiMA0GCSqGSIb3DQEBAQUAA4ICDwAwggIKAoICAQDMV0IWVJzmmNPTTe7+7cefQzlKZbPoFog02w1ZkXTPkrgE",
    "QK0CSzGrvI2RaNggDhoB4hp7Thdd4oq3P5kazethq8Jlph+3t723j/z9cI8LoGe+AaJZz3HmDyl2/7FWeUUrH556VOij",
    "KTVopAFPD6QuN+8bv+OPEKhyq1hX51SGyMnzW9os2l2ObjyjPtr7guXd8lyyBTNvijbO0BNO/79KDDRMpsMhvVAEVeux",
    "u537RR5kFd5VAYwCdrXLoT9CabwvvWhDFlaJKjdhkf2mrk7AyxRllDdLkgbvBNDInIjbC3uBr7E9KsRlOni27tyAsdLT",
    "mZw67mtaa7ONt9XOnMK+pUsvFrGeaDsGb659n/je7Mwpp5ijJUMv7/FfJuGITfhebtfZFG4ZM2mnO4SJk8RTVROhUXhA",
    "+LjJou57ulJCg54U7QVSWllWp5f8nT8KKdjcT5EOE7zelaTfi5m+rJsziO+1ga8bxiJTyPbH7pcUsMV8eFLI8M5ud2CE",
    "pukqdiDtWAEXMJPpGovgc2PZapKUSU60rUqFxKMiMPwJ7Wgic6aIDFUhWMXhOp8q3crhkODZc6tsgLjoC2SToJyMGf+z",
    "0gzskSaHirOi4XCPLArlzW1oUevaPwV/izLmE1xr/l9A4iLItLRkT9a6fUg+qGkM17uGcclzuD87nSVL2v9A6wIDAQAB"],
  ["MEUxCzAJBgNVBAYTAkNIMRUwEwYDVQQKEwxTd2lzc1NpZ24gQUcxHzAdBgNVBAMTFlN3aXNzU2lnbiBHb2xkIENBIC0g",
    "RzIwggIiMA0GCSqGSIb3DQEBAQUAA4ICDwAwggIKAoICAQCv5O5+iyQOEm6pUC0WRDuSklzKuF2EkkITKrxlV4JAPlck",
    "zVCLJSq3b/zvotDAHwIkShOWjyMT5ihYAKNHxwanhCMru72WK39VzIvBVx8OYmUP3T1WinParn5tuoEcfkKMIDXZQ02E",
    "+oTbUizzDid3C2u/ES9yeJ8u2D7mGDdaKnL52mKQkpXKH5zpszwry/MBE79az8G1CmC93bWZZFO4oJazb+Imd5GM4GIQ",
    "Ap80D6TVkjNR3r6NuoR6YDxq258r7N7eAT9uTeVQhsu0r+1EQMXKWoza0it8qO6+puUKqg6l3wVSt1XHIl0yapeXYxPb",
    "ydt5NnuFOkrFUon5JOedd6mC/1UcpXFpK9ECJPKzJtRr2gRV5cEKx20wN5Aq5J4UM14WF1XFW7XLNImS8Z0mj6EH1May",
    "eFDbDAwLfAuMQde56d2MiPejTbIyzNgX2s23zmad1P1e/72XPil1536nYlivJTSlQcc9vA1QygMDDwhaH5VzeGK/r3IU",
    "aQ6l5QMOeI4mKELwBwtiIBBnOUb6qQPMBDh6Zu8gg7WMSlaOkQD8jlyC3oigw+Jobn2N7zzdZfRdrFHvJICuqlaXb/mt",
    "fdphP5h3PKWRthyMJtplogltweJU47nKTEyAj3d7YJoe37bySB4Ouk5UbZjg4aIaondQz8RjkuxHGZ3r5mvOwQIDAQAB"],
  ["MEUxCzAJBgNVBAYTAlVTMRQwEgYDVQQKDAtBZmZpcm1UcnVzdDEgMB4GA1UEAwwXQWZmaXJtVHJ1c3QgUHJlbWl1bSBF",
    "Q0MwdjAQBgcqhkjOPQIBBgUrgQQAIgNiAAQNMF4bFZ0D0KF5Nbc6PJJ6yhUczWLznCZcBz3lVPqj1swS6vQUX+iOGasv",
    "LkjmrBhDeKzQN8O9ss0s5kfiGuZjuD0uL3jET9v0D6RoTFVya5UdThhClXjMNzyR4ptlKyk="],
  ["MEYxCzAJBgNVBAYTAkJFMRkwFwYDVQQKExBHbG9iYWxTaWduIG52LXNhMRwwGgYDVQQDExNHbG9iYWxTaWduIFJvb3Qg",
    "RTQ2MHYwEAYHKoZIzj0CAQYFK4EEACIDYgAEnA6xz7fonlJ3dTT6pUanrTIZMrQHqSfKlLsM0goQx9qJsJcMcBMJAY7Y",
    "6kfqvrKAK838KA3brLykhjftcAgAdeqTC3suUpwjaCMGQ+ySL1OE2/tHFAfoX5RnXcl6gTwg"],
  ["MEYxCzAJBgNVBAYTAkJFMRkwFwYDVQQKExBHbG9iYWxTaWduIG52LXNhMRwwGgYDVQQDExNHbG9iYWxTaWduIFJvb3Qg",
    "UjQ2MIICIjANBgkqhkiG9w0BAQEFAAOCAg8AMIICCgKCAgEArKx0MuizZeW67UMmHaaJDUW6KYiypB1j3dPBLAlXiTmh",
    "VelnNHcMbuRVHVIl0hNrXuEdqbd9iTJfDZ6fLHpjYEAfprC2eI+ZVJYIWK7kBrxiBQIWv6+oIwO2lA+8bmzCy9Wmuwzp",
    "9sEC+yHeZt0Xq3RC7/B0LyX06mtVW5Dbnd9ehwpA+60Za/v3ymCI3trBj9au1X/UPIPu1xZMg0UzayfQhtAcLWvzq33x",
    "han1KNKt7/OESxyH/BOjOnKiWhEr1idxJ+2BLW1mgZKHtBtYesw/CvpGT014XPgrSOMEhMtd9rRqs2X8Qp5RJiMgyz0U",
    "+YHtZRYATxpkl2YIz4x74yvAnfkU8hvxVmoWvyyFhc14OJrrQmoCNBiDF06UVvi2grXzlt09875/IHc+exkjayzUcnND",
    "V33g+NdpTxc2BPnAkGA3Rd7mDNh0ja6com10XUK+BvXZZG4CEKyJsEw7B01AfiTFipiCeY6kp4IgjSP6J3HJ38ZBdKBN",
    "9pEW3EaMXyljMVlxDNhvwrYyffvmXVOmfhX8u3V8Xez49hcc7MdrGcvze/ArB6XZbHlUdmydHKZuDul5DKgjaqPfGzAx",
    "n7FUe/5qy2aq3GXQop5Kmgcha4GP28RZ+t4iwASc46pbNpPoPb16oZ0LdrELx539z5ioBsL4KqOhg6C3JXKlAuMCAwEA",
    "AQ=="],
  ["MEcxCzAJBgNVBAYTAkNIMRUwEwYDVQQKEwxTd2lzc1NpZ24gQUcxITAfBgNVBAMTGFN3aXNzU2lnbiBTaWx2ZXIgQ0Eg",
    "LSBHMjCCAiIwDQYJKoZIhvcNAQEBBQADggIPADCCAgoCggIBAMTxh3/TeDH3OMn4w5lDvMf3vDfnTnG6S4+lcx1cbpiu",
    "A1euODdDLxc9H8jOaBDBeK4ZAysQ+ix5g/bouWi5VfIERKc5+fwEix7xok0n+WF7urflohO262E+0GzR5vv6Xu0dtJ6g",
    "NVuhksvwSZL+hQoFPubZC+JPu9yVN/yR6TI1ItEfOk4nhZ2wFZQy2mENR01gQq6SR+iDWlBY6YqLuV2h3N2ZSh82Z7tI",
    "5IO2N+tIOq8PZ48XB+gEyu9qMYfUwLb5lHF7Z2S4tpFKQntlLjBqDPWQ7pXm8s2C7NmhSuz2skvlRYXmbXiTBC6cgm02",
    "qcQxZB+Ggwsq9DUKeMlVz0GwR+kwn5m+YagGhLkoel842RupOLCDf3PBwztIKoIPIZu4zKg1w4Qbg7M+vqSVaQE6iQB4",
    "BNnJ9JkZq1Z+W4uGORWRpBAsCTKAYLOTwCq2GAudfo1J8hBKf/nVRi8ZkqOZpyasu4w85g68Rwfcc1HxcGQvCPm0Rx0w",
    "bETqKTeFkmhmvIM4/ns5LtNQ8B/7XmC2qab6J0Hxmxhy8vWEdErJZ8RUrkhk34zRbrAd4QePCB6ZnHHpTNil90cSH3TR",
    "UZ6G88KiI0ALc9tLpudzBozBoOnBWaxG+uYv+M9xnEZtucQVjTh5A0VI78Rd1wjuhzkihrIND1hD93GpSC796tYfAgMB",
    "AAE="],
  ["MEcxCzAJBgNVBAYTAkNOMREwDwYDVQQKDAhVbmlUcnVzdDElMCMGA1UEAwwcVUNBIEV4dGVuZGVkIFZhbGlkYXRpb24g",
    "Um9vdDCCAiIwDQYJKoZIhvcNAQEBBQADggIPADCCAgoCggIBAKkJBygTArCZ4GSqHkMWenOxkaB1Pqj64zgAeuyJaiAP",
    "i8WwmzMDWobGWIbVwYW7T8acQE3Kvu5plritgTCafJIF6wUrmkjQuHY+lsggu9Kw8Y/YrEVG/6pnYLR3fmofPBpSegQ9",
    "BzyFDYTQH3YK92oU33LjNHxXTlYBPnnxqik7bPr4j21NyDXfruvcJO55RaeFtgWI3ohdJXyXZGcJ2b9aFQWG8wke7Fgy",
    "MxHzd2Swdh/kEDUXG/IOsWykKqNz/AkfHjIZUxHn2bMsLnYuoaPefmqICejyB4r4ss0Q5+JzQJO7CNE/4fwLlLMl73ym",
    "19Gvn/+WmvWRe5gLd9R+6AfSYrWVOePz8W0PDmWEimNUxYC24J5LfUcmpwEIXdGIntfDMkT6gkoKaFR/OFMDzKQAM2RR",
    "WQujgpF6XuwWwvMq5mLaKttZYhAlSiqBC0cHQwZwh9L6kxEpekhN65THcE2vZ9VRsYAgAQG0egimkH9O4O8HQYevaqVe",
    "i/vPULKaVK/DibpYLfUwmLE2cjl+SQT9KadMeeQFV9uUuRZTjUazHZVhV1Z/r/AWW2FYbzZQEQvYrCuVFhoOHwjNNjRl",
    "EGJm1YBfFCBfLQygeApo1izX6W8r0koFk/yeb2tn/4jxTqVpSlI3BerGFo3SxJnRgis7ujV191FRWPPIB93ktAN/AgMB",
    "AAE="],
  ["MEcxCzAJBgNVBAYTAkNOMRwwGgYDVQQKExNpVHJ1c0NoaW5hIENvLixMdGQuMRowGAYDVQQDExF2VHJ1cyBFQ0MgUm9v",
    "dCBDQTB2MBAGByqGSM49AgEGBSuBBAAiA2IABGVQSq6MeZZKqhwIw6Oizf5ZVkF3/SaUQrsdzQjbc7JbdfPPnE6C9L/4",
    "YSaFbNaFW3Jw0v3bYrTfU4u9sURYYkIJx/p/WxDn/kD9wNjDKzLncKa3piBVHXuAXUuPZ0zxEA=="],
  ["MEcxCzAJBgNVBAYTAlVTMSIwIAYDVQQKExlHb29nbGUgVHJ1c3QgU2VydmljZXMgTExDMRQwEgYDVQQDEwtHVFMgUm9v",
    "dCBSMTCCAiIwDQYJKoZIhvcNAQEBBQADggIPADCCAgoCggIBALYRAose46F3mzvcv5Q+t5WnQDyh/YL5fTIGgnH29ox/",
    "++jbvGoul5ejjEv5K/ax+c6EHbH5xZfe77nyo+m8Eolep6pSq/gjJ8uksZxj29eZfvAKXutopvTGWkcNTRAz406xE6PI",
    "GGxL7PwJkN+dZCklIwehtNI9LmDgz9IJh7vNSPBNwsJ6iIq7us9ZGdavj7AHsJ4x8YLBwN8upm1sGQ612H4mGkUDPbB5",
    "pJQorQ9/JuWoCP6W6DxolFPugzqIKxWWCbLgeowuddac66dWZI+WT2iuPZfChI/AvEDAC1y99oezNWysGFB/hOBMzZLT",
    "IOkzvFKZrzK1KbMlKrRI+XLhymT35oIQjeidwoqI+jhmivxj+QH5eP17XHf6dof67N+xDnmVV7S9Ju/WAdHrFgq7jgu1",
    "xcWKVavTrOqRSynMGaQyJU4q8WVE0ALOqs5JtOqffIOwQHvnQ6unbKOPfYmB+kyl/9WOw85L4LXYs45Fz3bA7UAr/VMP",
    "sKfVOw2xiqID3jGtzHfqb3s+1t+RIhLmvvrYMvwQYxRRct5d1haTvSloM+86ZuwHiibfE9dXZXgn3l5JFACiAH+aqCG2",
    "qbGVsKW5DRYR2sdsSDxA4H4NWs1WPNGXBbnLS+05S5zEP9JVE24ksNZx+vTBusztG/X+gUHYAJg9Osiuepg3GAWVAgMB",
    "AAE="],
  ["MEcxCzAJBgNVBAYTAlVTMSIwIAYDVQQKExlHb29nbGUgVHJ1c3QgU2VydmljZXMgTExDMRQwEgYDVQQDEwtHVFMgUm9v",
    "dCBSMjCCAiIwDQYJKoZIhvcNAQEBBQADggIPADCCAgoCggIBAM7e/ab77OwUNDwHBlpsWfcZNd33wZ1VqtPNO6STcu8K",
    "+m2d9vCFgFuhSFKfOcW37iis78t2aBS5360BbJkfxCIdn/5yd+AsW6/kBL9PcqAaNJjoOWjslSV7dqHmabmFGb2JjP6t",
    "7Tbqc7z/g+LLfcHSzkqzjQWei0mT38Fb0G5e8C4wLoL8+ry0FwpI5YibxZtr3rDKtAPw2vSQuGVk91xMreh+Zl6Z17jC",
    "PsjQE52t7uRFe4lV94ofYlKEErPCQJfjih9HkaZ0WtL4sWMoELizCbhWd0CiJph5xv7fJe4+5aB/1GEPUUs8P4za4XB0",
    "2MJoofnBDOmh4n+7VTx2Bu5qTsySiDBNmr1PC0iahLWYo9X7c8FXYd0oVnUTroeO5wxRCRB1iEy8jfl7PNQiSB8q3Otr",
    "u0SxyzNxMkavrUrxjOh0OqznGiJzgNIw9yVCxyI7OxKtli7Gw3YHqiC3NUlX6ZJJ6HYWcjFnK5Z+iqPHlFYiv2pLfgEh",
    "siMy3+SaRG1ZW131AKAcm8Z4l42Q/5vIqrSvEVE5Xtn7Z63VWxGdMpobvdW6W6XJyyVpU1UnXODKNsuIYfset9DL7hb7",
    "06ZM3pKl1OLf9QZU3i6dS7STMKqBzt0a3FFzDU9w6eW2FiEZebLmiQt1ZMrVq7wJwRih/9RUoYU8/RQkA7KH06S3AgMB",
    "AAE="],
  ["MEcxCzAJBgNVBAYTAlVTMSIwIAYDVQQKExlHb29nbGUgVHJ1c3QgU2VydmljZXMgTExDMRQwEgYDVQQDEwtHVFMgUm9v",
    "dCBSMzB2MBAGByqGSM49AgEGBSuBBAAiA2IABB9PM4czKYqhhN7LxyFYQYnqVp0rS4XGHUwnvH8mUXJv4p/Wo8rMRRRG",
    "i63vfoaM7LF+L/+pcZ0YhEUEQVVuK+omf7uQAeNLGbrkVJZFCbHVbJFErYQTjpqMDYAMMvbgJw=="],
  ["MEcxCzAJBgNVBAYTAlVTMSIwIAYDVQQKExlHb29nbGUgVHJ1c3QgU2VydmljZXMgTExDMRQwEgYDVQQDEwtHVFMgUm9v",
    "dCBSNDB2MBAGByqGSM49AgEGBSuBBAAiA2IABPN0c6doi2CuQ7g1xYEwe0tJnfvBYc7m3ka9a9VhGDWuQN1z94mRMFrr",
    "PO6FfKJAdjupxrhH2CrnkpFqc+mxcjmfKZ+imNNfXliGZQ+hhGUG0dyLycdzyIxqL+XEq9Edig=="],
  ["MEgxCzAJBgNVBAYTAkJNMRkwFwYDVQQKExBRdW9WYWRpcyBMaW1pdGVkMR4wHAYDVQQDExVRdW9WYWRpcyBSb290IENB",
    "IDEgRzMwggIiMA0GCSqGSIb3DQEBAQUAA4ICDwAwggIKAoICAQCgvlAQjunybEC0BJyFuTHK3C3kEakEPBtVwedYMB0k",
    "tMPvhd6MLOHBPd+C5k+tR4ds7FtJwUrVu4/sh6x/gpqG7D0DmVIB0jWerNrwU8lmPNSsAgHaJNM7qAJGr6Qc4/hzWHa3",
    "9g6QDbXwz8z6+cZM5cOGMAqNF34168Xfuw6cwI2H44g4hWf6Pser4BOcBRiYz5P1sZK0/CPTz9XEJ0ngnjybCKOLXSoh",
    "4Pw5qlPafX7PGglTvF0FBM+hSo+LdoINofjSxxR3W5A2B4GbPgb6Ul5jxaYA/qXpUhtStZI5cgMJYr2wYBZupt0lwgNm",
    "3fME0UDiTouG9G/lg6AnhF4EwfWQvTA9xO+oabw4m6SkltFi2mnAAZauy8RRNOoMqv8hjlmPSlzkYZqn0ukqeI1RPToV",
    "7qJZjqlc3sX5kCLliEVx3ZGZbHqfPT2YfF72vhZooF6uCyP8Wg+qInYtyaEQHeTTRCOQiJ/GKubX9ZqzWB4vMIkIG1Si",
    "tZgj7Ah3HJVdYdHLiZxfokqRmu8hqkkWCKi9YSgxyXSthfbZxbGL0eUQMk1fiyA6PEkfM4VZDdvLCXVDaXP7a3F98N/E",
    "TH3Goy7IlXnLc6KOTk0k+17kBL5yG6YnLUlamXrXXAkgt3+UuU/xDRxeiEIbEbfnkduebPRq34wGmAOtzCjvpUfzUwID",
    "AQAB"],
  ["MEgxCzAJBgNVBAYTAkJNMRkwFwYDVQQKExBRdW9WYWRpcyBMaW1pdGVkMR4wHAYDVQQDExVRdW9WYWRpcyBSb290IENB",
    "IDIgRzMwggIiMA0GCSqGSIb3DQEBAQUAA4ICDwAwggIKAoICAQChriWyARjcV4g/Ruv5r+LrI3HimtFhZiFfqq8nUeVu",
    "GxbULX1QsFN3vXg6YOJkApt8hpvWGo6t/x8Vf9WVHhLL5hSEBMHfNrMWn4rjyduYNM7YMxcoRvynyfDStNVNCXJJ+fKH",
    "46nafaF9a7I6JaltUkSs+L5u+9ymc5GQYaYDFCDy54ejiK2toIz/pgslUiXnFgHVy7g1gQyjO/Dh4fxaXc6AcW34Sas+",
    "O7q414AB+6XrW7PFXmAqMaCvN+ggOp+oMiwMzAkd056OXbxMmO7FGmh77FOm6RQ1o9/NgJ8MSPsc9PG/Srj61YxxSscf",
    "rf5BmrODXfKEVu+lV0POKa2Mq1W/xPtbAd0jIaFYAI7D0GoT7RPjEiuA3GfmlbLNHiJuKvhB1PLKFAeNilUSxmn1uIZo",
    "L1NesNKqIcGY5jDjZ1XHm26sGahVpkUG0CM62+tlXSoREfA7T8pt9DTEceT/AFr2XK4jYIVz8eQQsSWu1ZK7E8EM4Dna",
    "tDlXtas1qnIhO4M15zHfeiFuuDIIfR0ykRVKYnLP43ehvNURG3YBZwjgQQvD6xVu+KQZ2aKrr+InUlYrAoosFCT5v0IC",
    "vybIxo/gbjh9Uy3l7ZizlWNof/k19N+IxWA1ksB8aRxhlRbQ694Lrz4EEEVlWFA4r0jyWbYW8jwNkALGcC4BrTwV1wID",
    "AQAB"],
  ["MEgxCzAJBgNVBAYTAkJNMRkwFwYDVQQKExBRdW9WYWRpcyBMaW1pdGVkMR4wHAYDVQQDExVRdW9WYWRpcyBSb290IENB",
    "IDMgRzMwggIiMA0GCSqGSIb3DQEBAQUAA4ICDwAwggIKAoICAQCzyw4QZ47qFJenMioKVjZ/aEzHs286IxSR/xl/pcqs",
    "7rN2nXrpixurazHb+gtTTK/FpRp5PIpM/6zfJd5O2YIyC0TeytuMrKNuFoM7pmRLMon7FhY4futD4tN0SsJiCnMK3Umz",
    "V9KwCoWdcTzeo8vAMvMBOSBDGzXRU7Ox7sWTaYI+FrUoRqHe6okJ7UO4BUaKhvVZR74bbwEhELn9qdIoyhA5CcoTNs+c",
    "ra1AdHkrAj80//ogaX3T7mH1urPnMNA3I4ZyYUUpSFlob3emLoG+B01vr87ERRORFHAGjx+f+IdpsQ7vw4kZ6+ocYfx6",
    "bIrc1gMLnia6Et3UVDmrJqMz6nWB2i3ND0/kA9HvFZcba5DFApCTZgIhsUfei5pKgLlVj7WiL8DWM2fafsSntARE60f7",
    "5li59wzweyuxwHApw0BiLTtIadwjPEjrewl5qW3aqDCYz4ByA4imW0aucnl8CAMhZa634RylsSqiMd5mBPfAdOhx3v89",
    "WcyWJhKLhZVXGqtrdQtEPREoPHtht+KPZ0/l7DxMYIBpVzgeAVuNVejH38DMdyM0SXV89pgR6y3e7UEuFAUCf+D+IOs1",
    "5xGsIs5XPd7JMG0QA4XN8f+MFrXBsj6IbGB/kE+V9/YtrQE5BwT6dYB9v0lQ7e/JxHwc64B+27bQ3RP+ydOc17KXqQID",
    "AQAB"],
  ["MEgxCzAJBgNVBAYTAkRFMRUwEwYDVQQKEwxELVRydXN0IEdtYkgxIjAgBgNVBAMTGUQtVFJVU1QgQlIgUm9vdCBDQSAx",
    "IDIwMjAwdjAQBgcqhkjOPQIBBgUrgQQAIgNiAATGy8co0fuE9ZrvQhQg4UNrbnWt/CsDhNR2kyXXWTtBZWse5jQqu3T2",
    "Es7obeer5DxOP0QIi80Wccu/kpn0pNc8UFRSkIWDeJRnZ6McCRk9dTSF3u1gfccMtEFSuW7l7kI="],
  ["MEgxCzAJBgNVBAYTAkRFMRUwEwYDVQQKEwxELVRydXN0IEdtYkgxIjAgBgNVBAMTGUQtVFJVU1QgRVYgUm9vdCBDQSAx",
    "IDIwMjAwdjAQBgcqhkjOPQIBBgUrgQQAIgNiAATxC92GQyAZ35eF6CJKm8+dmL+0BSbJy+Om0o/Fnnh7MYmpia0nPGUQ",
    "gvzfw51O8DMjxNIy9Ryw3zMXXcXwsYr577m3FMopSsIPqX91ZUkqMGf0ZPfWGnfaw8KXYUJ7Sa0="],
  ["MEgxCzAJBgNVBAYTAlVTMSAwHgYDVQQKExdTZWN1cmVUcnVzdCBDb3Jwb3JhdGlvbjEXMBUGA1UEAxMOU2VjdXJlVHJ1",
    "c3QgQ0EwggEiMA0GCSqGSIb3DQEBAQUAA4IBDwAwggEKAoIBAQCrpIHllc319hSOwk/K1OJ4lVicQeENmUAkFzmRM2bp",
    "vuGDr2JcidH8JFths+AREUEcHW7wuLv43qeBuqZIxp8dvb6OqUE+uJTtKRrUjtIDHQPvbQ1nHFfXBq3KyPX+Dq9mJUgE",
    "lgtdo7oWwwhP0Ub4FFzyyF4BmW39iMyGqMFvMUJsUj5oy/MZNN+7hxhWgCbE0NzAb9/eoMKRFqBkEUtEvB725/pj3mas",
    "dqRxo+w2lGh6d6Sx5w4vgXritXKG76Jri/AP29NZP7pyvEQknONzs/evVy9CJp2pdLoAUvJLzVN8Rws2hQ5mqQiXFjRX",
    "wWb3gOPtcFTHk+AuKBVZh7q7AgMBAAE="],
  ["MEoxCzAJBgNVBAYTAlVTMRIwEAYDVQQKEwlJZGVuVHJ1c3QxJzAlBgNVBAMTHklkZW5UcnVzdCBDb21tZXJjaWFsIFJv",
    "b3QgQ0EgMTCCAiIwDQYJKoZIhvcNAQEBBQADggIPADCCAgoCggIBAKdQGd4/mT3UM0bxb1FhgrKpT49niV2E2VPdDCjZ",
    "1/D/rpVDcpn5tV18isFC4TFQdNGBDXzNmyGrQ+KsrV6GbvMJih9aMr2i65T56FwK7P+Y0q9xs7RTn06H75K8vexPMjCI",
    "SxdeV8RTwvYCl43ZYiu/JB9ijd/DuClLSXg8k2CIIvyZ2jbIwqLULFQAZzVuc78CWPCk3eWwoiZ6yuA2pRkW9f23764/",
    "QPVtWgT9zjTKJNx0IxtdMxMSXcQBJfYw3QJdn+DVR7206xuhu0lJ2J9bAvOK5CSQ5GJPT8Gviw50F6jRcohqegFJzLRG",
    "ecYXsdqYHgdZ+nUhhWXdkFbO+6ulYJ3EnflSsIu9h/mPKyMKI3Y79zPhyQDzaflLouBOvH6TOYQH90Rwfv4HWuWxrNEY",
    "zPI15UlJCMpWyT37Dxh9izvBE8JNj8lPDjfpH6EOat9iLss1BlF5LMglOPT6S6eJXJzS4w05hkp0fNVZh8I/TgxcUvQ9",
    "91KC8eqjrP1JNBoo80GIOhPu6N7/mR1fusvoHvK5UGDAMdNz5e++oO0zC3S+ICDEZ2zwCAN6VYB/Rk6Wp/QePuH22Anh",
    "M2QrY9cyXp/5wHsPeG+XvJOa+ZwSkHh6gIcV13J0nFV0eLG64W5wBLpPoLpow3v/MfBzPT2UKrELQQ6g/k2IZWt5M7TX",
    "AgMBAAE="],
  ["MEoxCzAJBgNVBAYTAlVTMSAwHgYDVQQKExdTZWN1cmVUcnVzdCBDb3Jwb3JhdGlvbjEZMBcGA1UEAxMQU2VjdXJlIEds",
    "b2JhbCBDQTCCASIwDQYJKoZIhvcNAQEBBQADggEPADCCAQoCggEBAK81LtisbFVpBnHlE2gks0/YzCFH+PFgOImJA+m9",
    "6l5GUwncXPVa6PdFKgLrMWHXKTNMzsd8Cjd+D7oymOEdl6+Px9zJOJbz2xr8Ue1oxtBupHwk0a5CyJZQYy7g/nX+mKdf",
    "SS6V4zkzZI4epF+Q0mc8stn+QblVpwmOcgUei91EhYJC0EnAHWDw0Rcslev2pcGSo8XCpwhgDWAEEJZ5nhY05qm2+iVF",
    "OcgeZfmT9arxUtyZmD2lhhoMNTP6S6UEBhUcMYDvqhhrwnvX2s75MyDV9b1qMy2BBPuwXNSco+JcHeOpQnVee9R37zlU",
    "uskKGBsSmUkviEv9UGLRc+ePekMCAwEAAQ=="],
  ["MEwxIDAeBgNVBAsTF0dsb2JhbFNpZ24gUm9vdCBDQSAtIFIzMRMwEQYDVQQKEwpHbG9iYWxTaWduMRMwEQYDVQQDEwpH",
    "bG9iYWxTaWduMIIBIjANBgkqhkiG9w0BAQEFAAOCAQ8AMIIBCgKCAQEAzCV2kHkGeCIW9cCDtoTKKJ79BXYRxa2IcvxG",
    "AkPHsoqdBF8kyy5L4WCCRuFSqwyBR3Bs3WTR6/Usow+CPQwrrpfXthSGEHm7OxOAd4wI4UnSamIvH176lmjfiSeVOJ8G",
    "1z7JyyZZDXPesMjpJg6DFcbvW4vSBGDKSaYo9mk79svIKJHlnYphVzesdBTcdOA67nIvLpz70Lu/9T0A4QYz6IIrrlOm",
    "OhZzjN1BDiA6wLSnoemyT5AuMmDpV8u5BJJoaOU4JmB1sp93/5EU764gSfytQBVI0QIxYRleuJfvrXe3ZJp6v1/BE++b",
    "YvsNbOBUaRapA9pu6YOTcXbGaYWCFwIDAQAB"],
  ["MEwxIDAeBgNVBAsTF0dsb2JhbFNpZ24gUm9vdCBDQSAtIFI2MRMwEQYDVQQKEwpHbG9iYWxTaWduMRMwEQYDVQQDEwpH",
    "bG9iYWxTaWduMIICIjANBgkqhkiG9w0BAQEFAAOCAg8AMIICCgKCAgEAlQfoc8pm+ewUyns89w0I8bRFCyyCtEjG61s8",
    "roO4QZIzFKRvf+kqzMawiGvFtonRxrL/FM5RFCHsSt0bWsbWh+5NOhUG7WRmC5KAykTec5RO86eJf094YwjIElBtQmYv",
    "Tbl5KE1SGooagLcZgQ5+xIq8ZEwhHENo1z08isWyZtWQmrcxBsW+4m0yBqYe+bnrqqO4v76CY1DQ8BiJ3+QPefXqoh8q",
    "0nAue+e8k7ttU+JIfIwQBzj/ZrJ3YX7g6ow8qrSk9vOVShIHbf2MsonP0KBhd8hYdLDUIzr3XTrKotudCd5dRC2Q8YHN",
    "V5L6frxQBGM032uTGL5rNrI55KwkNrfw77YcE1eTtt6y+OKFt3OiuDWqRfLgnTahb1SK8XJWbi6IxVFCRBWU7qPFOJab",
    "Tk5aC0fzBjZJdzC8cTflpuwhCHX85mEWP3fV2ZGXhAps1AJNdMAU7f05+4PyXhShBLAL6f7uj+FuC7IIs2FmCWqxBjpl",
    "llnA8DX9ydoojRoRh3CBCqiadR2eOoYFAJ7bgNYl+dwFnidZTHY5W+r5paHYgw/R/98wEfmFzzNI9cptZBQselhP00sI",
    "ScWVZBpjDnk99bOMylitnEJFeW4OhxlcVLFltr+Mm9wT6Q1vuC7cZ27JixG1hBSKABlwg3mRl5HUGie/Nx4yB9gUYzwo",
    "TK8CAwEAAQ=="],
  ["MEwxLjAsBgNVBAMMJUF0b3MgVHJ1c3RlZFJvb3QgUm9vdCBDQSBFQ0MgVExTIDIwMjExDTALBgNVBAoMBEF0b3MxCzAJ",
    "BgNVBAYTAkRFMHYwEAYHKoZIzj0CAQYFK4EEACIDYgAEloZYKDcKZ9Cg3iQZGeHkBQcfl+3oZIK59sRxUM6KDP/XtXa7",
    "oWyTbIOiaG6l2b4siJVBzV3dscqDY4PMwL502eCdpO5KTlbgmClBk1IQ1SQ4AjJn8ZQSb+/Xxd4u/RmA"],
  ["MEwxLjAsBgNVBAMMJUF0b3MgVHJ1c3RlZFJvb3QgUm9vdCBDQSBSU0EgVExTIDIwMjExDTALBgNVBAoMBEF0b3MxCzAJ",
    "BgNVBAYTAkRFMIICIjANBgkqhkiG9w0BAQEFAAOCAg8AMIICCgKCAgEAtoAOxHm9BYx9sKOdTSJNy/BBl01Z4NH+VoyX",
    "8te9j2y3I49f1cTYQcvyAh5x5en2XssIKl4w8i1mx4QbZFc4nXUtVsYvYe+W/CBGvevUez8/fEc4BKkbqlLfEzfTFRVO",
    "vV98r61jx3ncCHvVoOX3W3WsgFWZkmGbzSoXfduP9LVq6hdKZChmFSlsAvFr1bqjM9xaZ6cF4r9lthawEO3NUDPJcFDs",
    "GY6wx/J0W2tExn2WuZgIWWbeKQGb9Cpt0xU6kGpn8bRrZtkh68rZYnxGEFzedUlnnkL5/nWpo63/dgpnQOPF943HhZpZ",
    "nmKaau1Fh5hnstVKPNe0OwANwI8f4UDErmwh3El+fsqyjW22v5MvoVw+j8rtgI5Y4dtXz4U2OLJxpAmMkokIiEjxQGMY",
    "sluMWuPD0xeqqxmjLBvk1cbiZnrXghmmOxYsL3GHX0WelXOTwkKBIROW1527k2gV+p2kHYzygeBYBr3JtuP2iV2J+axE",
    "octr+hbxx1A9JNr3w+SH1VbxT5Aw+kUJWdo0zuATHAR8ANSbhqRAvNncTFd+rrcztl524WWLZt+NyteYr842mIycg5kD",
    "cPOvdO3GDjbnvezBc6eUWsuSZIKmAMFwoW4sKeFYV+xafJlrJaSQOoD0IJ2azsct+bJLKZWD6TWNp0lIpw9MGZHQ9b8Q",
    "4HECAwEAAQ=="],
  ["ME0xCzAJBgNVBAYTAkFUMSMwIQYDVQQKExplLWNvbW1lcmNlIG1vbml0b3JpbmcgR21iSDEZMBcGA1UEAxMQR0xPQkFM",
    "VFJVU1QgMjAyMDCCAiIwDQYJKoZIhvcNAQEBBQADggIPADCCAgoCggIBAK4uVq0bHO/2lY+gdxsr02OPhE1Fog+fW0Wr",
    "WXtRNPnsi4p4xd1rr73E35NFHr+ROAuuDhbnQXP427vRuFHgy4M7czhud4oPWWMmzacqzlT7uOLAfEfOYHw/snPywBm2",
    "ipKHNQ2QKKLkFQRjPrqv7nxezKaLULI490Fjys7/aY9oDpU25cy5jAnKS90xkJbIzB/9VpY0244c6iy+hS5j3aqpldP9",
    "KZUT8MiYk9ktFkeQEYOiOiKiKFei6/7AjCigpn3nKkI7goBjpWMfGcx8smaowtNtN2/ifgZR2UWEHxLOJFJkhQtIgE6H",
    "sSIiMKrrrr7gAuBA6LBCgANRqrR+qkTXQ2HzomsWiUmko6QrigLEePRoisHkejaxbxuWG3dJjdTJBnKPz1Pj3BeFIErc",
    "mCfTkSYrRx5pB6/eouTk1GsLs1581CSARylpO27orP1A69jtcXEr8uhYHetBlyLFH9Q50CePh+MY9OCpRg31dDqCLtBu",
    "LJGjMVw7Rup7BBBWXoAd9aVl6IL84geMYkX1IN5GcIahvJPTHnSmbLAs9wMMiAzL1HJThrxgRvOYasLxv0P5cCB3yjdB",
    "eVVSY41bEp/FaMSInazyMKu3ozGXZ62PFw9sx3PtJJRryIOa0Jo3SQSrsRbIbElJLauh0IyS8kFKeSEl22PXtpynfkJp",
    "+zpjAgMBAAE="],
  ["ME0xCzAJBgNVBAYTAkRFMRUwEwYDVQQKDAxELVRydXN0IEdtYkgxJzAlBgNVBAMMHkQtVFJVU1QgUm9vdCBDbGFzcyAz",
    "IENBIDIgMjAwOTCCASIwDQYJKoZIhvcNAQEBBQADggEPADCCAQoCggEBANOySs96R+91myP6Oi/WUEWJNTrGa9v+2wBo",
    "qOADER03UAifTUpolDWzU9GUY6cgVq/eUXjsKj3zSEhQPgrfRlWLJ23DEE0NkVJD2IfgXU42tSHKXzlABF9bfsyjxiup",
    "QB7ZNoTWSPOSHjRGICTBpFGOShrvUD9pXRl/RcPHAY9RySPocq60vFYJfxLLHLGvKZAKyVXMD9O0Gu1HNVpK7ZxzBCHQ",
    "qr0ME7UAyiZsxGsMlFqVlNpQmvH/pStmMaTJOKDfHR+4CS7zp+hnUquVH+BGPtikw8paxTGA6Eian5Rp/hnd2HN8gcqW",
    "3o7tszIFZYQ05ub9VxC1X3a/L7AQDcUCAwEAAQ=="],
  ["ME0xCzAJBgNVBAYTAlVTMRIwEAYDVQQKEwlJZGVuVHJ1c3QxKjAoBgNVBAMTIUlkZW5UcnVzdCBQdWJsaWMgU2VjdG9y",
    "IFJvb3QgQ0EgMTCCAiIwDQYJKoZIhvcNAQEBBQADggIPADCCAgoCggIBALYilPykSK/oR2sK+yd25PI/ijt6SiwxKoyN",
    "sKnDMWuod3aEJrasgUINCOtVWLt6+LxlffKgbYuoR+lidh4R7ggU0bJEFvTq0PoeL17by3NBrrwAsEorQLKs4TtLwi2d",
    "5KGb7Bo6HvAIs9DkJDUHn5y0yVJt2wfKj7Vb8IPzT8ctpcity5UgpDEoV1ha5I0bmqueDQzyCjM5IjkKly7zU3e5REX9",
    "hMs2IIFZLZpvbUhIYcpM31PRr1K8RJ+rL2uDcu91gNoGMxtdyNpjxk3NrGYxzdHePocQNuG5pHrvYFCyy8qmVuA3r6s0",
    "Ezkl6Dlm5Jh6qhKYnFlmhj6t8bDKPgYPe/ARSzegRG17y6iMcfTVtZE2zPAVxiveURexl0xQPbGVWXwFfS0h1QC/AWei",
    "XnumXPL3IvGQDZPbqkRRZsx9dgPraqgqOBmXdg1rimH5vPbudv1wK90pPPgKHltCHItWL1UbHKEutccW5viqPJKOabYB",
    "wbWGnYkPCziUVOjq3J49JbxTJu3VqzmqxUBMVKuytNnZ+Ndy2xy8bb1lX++INSpmL+72s2XwM418mEFpRg9DHGn6m7XQ",
    "YWrNykvZTJBGqxVZoUdUKS6DKF8cwqKrchcABo5F7IviMz1/2hlE5GJyw98ixvJW1N1flXLtbV/3SANb/cUqoPZzI4QQ",
    "GwHnAgMBAAE="],
  ["ME0xCzAJBgNVBAYTAlVTMRcwFQYDVQQKEw5EaWdpQ2VydCwgSW5jLjElMCMGA1UEAxMcRGlnaUNlcnQgVExTIFJTQTQw",
    "OTYgUm9vdCBHNTCCAiIwDQYJKoZIhvcNAQEBBQADggIPADCCAgoCggIBALPQ9Ml5EZ39/GaB58zV5LzsgT5qNY4ut+fe",
    "r/kHTc8wneoJC5m9bFfaGEq4eKw6OaimSKwucuW96/EazeekA6k/EbTYL4kW+5QBPbsv+BMFoXgcjijgReCD9FkblbOu",
    "fgNF5b7CQv7u8jy2hROYMp0WqCnCCxw43J8xd1y/J6P8J6y3K710mxct8oHaXbDhIxc+iEoSI9Dqz53eAxexQkqgFkyk",
    "bZPpPzruOnydWJ30To/8OyPIbbjiBdrM6+zDMfTXpylUgM9EW0xvMJ7zzN0flEOdTX9wcA3UOtE38Gydm8AUk1jvzUE4",
    "dbwTA5V8f+Nc6dUN1eJ8EGKqa/A9dvM/o+iwwf3vqldNrIanGLQpwSwOv2S+KYzYAi3NXC/yf+8V9AwVrAqw8dMNT2pN",
    "d5cBoPFmt7fO787s7KV1yqzj4WP3uKEEyLx7P10tFiJW7UhJ/qcveTAlm7prLT+dO8QX5x0u+/LPpvzjFCyWmCGMtJHp",
    "GWCD8jArBnNQ1Zg7BunHigxgjCj4Uptu4fZNuwYkm9crJj/9Ki9x9dYkvn8xng9t6I9PTaM//zXq30leQY+G+fF3eUsb",
    "tKNeL/tGAtBmE15ehU/O2HCIe84BtZaX1819/YL4wiTBygE5T42iwRRAH5xm1QwJRtby0NFIdlY6Q8u2ChE5uowTbAa1",
    "ns/rAgMBAAE="],
  ["ME4xCzAJBgNVBAYTAk5PMR0wGwYDVQQKDBRCdXlwYXNzIEFTLTk4MzE2MzMyNzEgMB4GA1UEAwwXQnV5cGFzcyBDbGFz",
    "cyAyIFJvb3QgQ0EwggIiMA0GCSqGSIb3DQEBAQUAA4ICDwAwggIKAoICAQDXx173wQfUd/tDIfT09Wnk7jIB26OGH+RZ",
    "DbrndYNS6+ocYRVIux0HyoyusNyWnerDYJKGgihznFYG/0tk8AwqN0m15c8MfO7xSrtzMGXz1S+Dtn7j5/Weq2D50/Gd",
    "knSK5ByWrFuA6bX0MYejUfzHfqFvjlN31JfBVTOSPhgvddSthknLla9UBmzYBhONW//hJhlZwCS6gXF5kERQaCSUX7iz",
    "EfEpQWGjQcsjNtXB8TJQEE5/9IaT7ITTjrxLv1wBTgc93BSKlAqk6nP7C1HoEwcY+g7xK9FUFX084fe0GUJnYl534KJV",
    "7LbZaRfVOq9E7UrFnuR6J3zlddeqyyXn32sK2w9Nk06ooM17LvJZAWq3DbgHgX6LOBs45gpXmT3uIeij9QwW3YvsNI6c",
    "KhwAFReNaIPScJ8YCM0RaNXJa1LNxEaP3LXz2FdzHumUOQS/09443rRT7Gkcon7Ej+QbcK3yovn79xZkZmmfSVGi4hUY",
    "ZwZKf9VstU2zM+Bh612+6ZgPMtcdSzwuWgFSkQny3+qN2AZAY6oR5P7DN54UUj/04szyYZPR/Wdr11Kuv2irQEOgVzVT",
    "ePBT+GFCB2TG12+bTDgNY6xirzaLonMKDfUhvXSqTepyA0nbx18dYmPH/d2R7DPu9W20bjBo3sjWJrB1Xnu0ByCYoXYy",
    "uE1sTwIDAQAB"],
  ["ME4xCzAJBgNVBAYTAk5PMR0wGwYDVQQKDBRCdXlwYXNzIEFTLTk4MzE2MzMyNzEgMB4GA1UEAwwXQnV5cGFzcyBDbGFz",
    "cyAzIFJvb3QgQ0EwggIiMA0GCSqGSIb3DQEBAQUAA4ICDwAwggIKAoICAQCl2gqVFlDjlfJenXYxBjJ6m/EQdrgAmrVS",
    "Ns0kR7CfGGS8mvb61XnYkGJMIi/eOD3W4KjpHCzbeBHpjmhRFXLH8zOH5KBdC1zgVwcqMPXNxDd3KE0Ykea/1VL9cS1w",
    "PufGxIrj8CgL9HaYoYuHVbI6E/y3Pic3jiLjqE8q72C7Pbc5ww4BR5ldEk/bQ/pXoe35nb4RRyZbE5irXRaKsDccV51F",
    "/4iWNr+7ygd7b4dj19AyatZdbAzxs2454msxLjkAJxTeOMDsGWaGEuidchYTZFLHqTcc/YIw7YQYHfSuXP9wEwDrsfUz",
    "ekvWVfgFjUtpsPWzKDZcFMRRc01rC/E0B9sXOdfcKHtr9Z/zLsFPFyoQ88zK6Ov9a6sump8tgm4E1FIBky09hvx+/N/v",
    "Qh2ma++5IMb3vaCnlf2n5okk2MyMNGziIy/ZEhohuVWRbwuReRkMrUCIC3DietIO2GhIu4ITORBY6dgqB8YS21jb0jtV",
    "EEcFFWdifhhjpkY/CQ5UMl6/DWJ6J++A6NvZSwZaN1ol0AgSd9RvCVCXPcgdw9+MRTBWxtNkq2bzwF6WnMPE78N8a4s6",
    "eX+zSc894omfoDBLhbmclCR5j31rqUVoDyvQ8docy2m4yklibcjQY2LdYA9Yqo+hvAWlZqLPG3ayhGSxTDlSwDC68IxL",
    "ArC2twIDAQAB"],
  ["ME4xCzAJBgNVBAYTAlVTMRIwEAYDVQQKDAlDb21tU2NvcGUxKzApBgNVBAMMIkNvbW1TY29wZSBQdWJsaWMgVHJ1c3Qg",
    "RUNDIFJvb3QtMDEwdjAQBgcqhkjOPQIBBgUrgQQAIgNiAARLNumuV16ocNfQj3Rid8NeeqrltqLxeP0CflfdkXmcbLlS",
    "iFS8LwS+uM32ENEp7LXQoMPwiXAZu1FlxUOcw5tjnSCDPgYLpkJEhRGnSjot6dZoL0hOUysHP029uax3OVc="],
  ["ME4xCzAJBgNVBAYTAlVTMRIwEAYDVQQKDAlDb21tU2NvcGUxKzApBgNVBAMMIkNvbW1TY29wZSBQdWJsaWMgVHJ1c3Qg",
    "RUNDIFJvb3QtMDIwdjAQBgcqhkjOPQIBBgUrgQQAIgNiAAR4MIHoYx7l63FRD/cHB8o5mXxO1Q/MMDALj2aTPs+9xYa9",
    "+bG3tD60B8jzljHz7aRP+KNOjSkVWLjVb3/ubCK1sK9IRQq9qEmUv4RDsNuESgMjGWdqb8FuvAY5N9GIIvc="],
  ["ME4xCzAJBgNVBAYTAlVTMRIwEAYDVQQKDAlDb21tU2NvcGUxKzApBgNVBAMMIkNvbW1TY29wZSBQdWJsaWMgVHJ1c3Qg",
    "UlNBIFJvb3QtMDEwggIiMA0GCSqGSIb3DQEBAQUAA4ICDwAwggIKAoICAQCwSGWjDR1C45FtnYSkYZYSwu3D2iM0GXb2",
    "6v1VWvZVAVMP8syMl0+5UMuzAURWlv2bKOx7dAvnQmtVzslhsuitQDy6uUEKBU8bJoWPQ7VAtYXR1HHcg0Hz9kXHgKKE",
    "UJdGzqAMxGBWBB0HW0alDrJLpA6lfO741GIDuZNqihS4cPgugkY4Iw50x2tBt9Apo52AsH53k2NC+zSDO3OjWiE260f6",
    "GBfZumbCk6SP/F2krfxQapWsvCQz0b2If4b19bJzKo98rwjyGpg/qYFlP8GMicWWMJoKz/TUyDTtnS+8jTiGU+6Xn6my",
    "Y5QXjQ/cZip8UlF1y5mO6D1cv547KI2DAg+pn3LiLCuz3GaXAEDQpFSOm117RTYm1nJD68/A6g3czhLmfTifBSeolz7p",
    "UcZsBSjBAg/pGG3svZwG1KdJ9FQFa2ww8esD1eo9anbCyxooSU1/ZOD6K9pzg4H/kQO9lLvkuI6cMmPNn7togbGEW682",
    "v3fuHX/3SZtS7NJ3Wn2RnU3COS3kuoL4b/JOHg9O5j9ZpSPcPYeoKFgo0fEbNttPxP/hjFtyjMcmAyejOQoBqsCyMWCD",
    "IqFPEgkBEa801M/XrmLTBQe0MXXgDW1XT2mH+VepuhX2yFJtocucH+X8eKg1mp9BFM6ltM6UCBwJrVbl2rZJmkrqYxhT",
    "nCwuwwIDAQAB"],
  ["ME4xCzAJBgNVBAYTAlVTMRIwEAYDVQQKDAlDb21tU2NvcGUxKzApBgNVBAMMIkNvbW1TY29wZSBQdWJsaWMgVHJ1c3Qg",
    "UlNBIFJvb3QtMDIwggIiMA0GCSqGSIb3DQEBAQUAA4ICDwAwggIKAoICAQDh+g77aAASyE3VrCLENQE7xVTlWXZjpX/r",
    "wcRqmL0yjReA61260WI9JSMZNRTpf4mnG2I81lDnNJUDMrG0kyI9p+Kx7eZ7Ti6Hmw0zdQreqjXnfuU2mKKuJZ6VszKW",
    "pCtYHu8//mI0SFHRtI1CrWDaSWqVcN3SAOLMV2MCe5bdSZdbkk6V0/nLKR8YSvgBKtJjCW4k6YnS5cciTNxzhkcAqg2I",
    "jq6FfUrpuzNPDlJwnZXjfG2WWy09X6GDRl224yW4fKcZgBzqZUPckXk2LHR88mcGyYnJ27/aaL8j7dxrrSiDeS/sOKUN",
    "NwFnJ5rpM9kzXzehxfCrPfp4sOcsn/Y+n2Dg70jpkEUeBVF4GiwSLFworA2iI540jwXmojPOEXcT1A6kHkIfhs1w/tku",
    "FT0du7jyU1fbzMZ0KZwYszZ1OC4PVKH4kh+Jlk+71O6d6Ts2QrUKOyrUZHk2EOH5kQMreyBUzQ0ZGshBMjTRsJnhkB4B",
    "QDa1t/qp5Xd1pCKBXbCL5CcSD1SIxtuFdOa3wNemKfrb3vOTlycEVS8KbzfFPROvCgCpLIscgSjX74Yxqa7ybrjKaixU",
    "R9gqiC6vwQcQeKwRoi9C8DfF8rhW3Q5iLc4tVn5V8qdE9isy9COoR+jUKgF4z2rDN6ieZdIs5fq6M8EGRPbmz6UNp2YI",
    "NIos8wIDAQAB"],
  ["ME4xCzAJBgNVBAYTAlVTMRcwFQYDVQQKEw5EaWdpQ2VydCwgSW5jLjEmMCQGA1UEAxMdRGlnaUNlcnQgVExTIEVDQyBQ",
    "Mzg0IFJvb3QgRzUwdjAQBgcqhkjOPQIBBgUrgQQAIgNiAATBRKHPEZdQmt4jgjUHzdDLGJ3S8X93NU873ZRyUu3CO/js",
    "+ntrWCDsma7J/GizdbnbCezIE/VOxgodZjBMux9HCjxhEEIpfKUIDuAi6dM1aM6bY5+EtZlNWKCO9VTnlck="],
  ["ME4xCzAJBgNVBAYTAlVTMRgwFgYDVQQKDA9TU0wgQ29ycG9yYXRpb24xJTAjBgNVBAMMHFNTTC5jb20gVExTIEVDQyBS",
    "b290IENBIDIwMjIwdjAQBgcqhkjOPQIBBgUrgQQAIgNiAARFKTVz+sK4I84UfaixTaBbNu4qLFPDYAk1siRmJmnAs5XW",
    "XZJAGQ7GpRNw9O8SUShd58y9+TyFwc+UkMkrzpJCWFln/ZQnEGSMTwSxTUnke0+b9ecI+AOI96fDkksZVIE="],
  ["ME4xCzAJBgNVBAYTAlVTMRgwFgYDVQQKDA9TU0wgQ29ycG9yYXRpb24xJTAjBgNVBAMMHFNTTC5jb20gVExTIFJTQSBS",
    "b290IENBIDIwMjIwggIiMA0GCSqGSIb3DQEBAQUAA4ICDwAwggIKAoICAQDQpAlyT0CIEmE+NSOe7vZ0zy97WD3OPA0Q",
    "KJAvl/eMSNig2CWxTLARTBdzUNAiSmO7gdMpbtW1CT4mGH+yEn+TmLev8Da/8u4Ynpw7UsVHGV1082Rm1V3HaLS/GxwG",
    "o7yPQCO2HsaEvVHEGznBldIp7Euuey2/Of20Yt6We0HGnKDgBnL78AeXCTmBdK/3NFkRVwrCW8Ek9DFzMILGnboC9z58",
    "RF+DDfPx3SBpFglQ4tRVtuCAcnZuTEe3dVVZtFN02ZTGQa1YijFmDx6iGylATi/fe+YWLC38v+zztPq+GPabSdTuBW7Z",
    "NPOc8ewBi9Egxg+gtbwXTkh7UcL86VxpN0dms2j4FSjwudOkFcxaT7pScKMSRd3Guk77wtD3qFInbW55tYz8e4zBFkzu",
    "gH++8Ha+QVMSM65aOEKr1w8+QY12BzLVq4n2TmfZsUJ1I27zzUKy/FX1U4cXO8AzWPFS0vmApPDo8DuLOMykxpB/D5z9",
    "i9Gjz9qDp2nJUDbVXAXSCkF022MRN8GloJZLHowWEneulDR7Hn/CZgDkqoPqipCtzjZETdFR6bwf82oF/cB0HyUZQFFu",
    "6oJRQN+buQgqBgLVIxwT1unb28awest7J5v74NVGJO0QS2NLpQWPurgdK6b6keKSUr3s62eXbZotn4EyBWcy+0gIP9kl",
    "uAQlLwIDAQAB"],
  ["ME8xCzAJBgNVBAYTAlRXMSMwIQYDVQQKDBpDaHVuZ2h3YSBUZWxlY29tIENvLiwgTHRkLjEbMBkGA1UEAwwSSGlQS0kg",
    "Um9vdCBDQSAtIEcxMIICIjANBgkqhkiG9w0BAQEFAAOCAg8AMIICCgKCAgEA9B5/UnMyDHPkvRN0o9QwqNCuS9i233VH",
    "ZvR85zkEHmpwINJaR3JnVfSl6J3VHiGh8Ge6zCFovkRTv4354twvVcg3Px+kwJyz5HdcoEb+d/oaoDjq7Zpy3iu9lFc6",
    "uux55199QmQ5eiY29yTw1S+6lZgRZq2XNdZ1AYDgr/SEYYwNHl98h5ZeQa/rh+r4XfEuiAU+TCK72h8q3VJGZDnzQs7Z",
    "ngyzsHeXZJzA9KMuH5UHsBffMNsAGJZMoYFL3QRtU6M9/Aes1MU3guvklQgZKILSQjqj2FPseYlgSGDIcpJQ3AOPgz+y",
    "Qlda22rpEZfdhSi8MEyr48KxRURHH+CKFgeW0iEPU8DtqX7UTuybCeyvQqww1r/REEXgphaypcXTT3OUM3ECoWqj1jOX",
    "TyFjHluP2cFeRXF3D4FdXyGarYPM+l7WjSNfGz1BryB1ZlpK9p/7qxj3ccC2HTHsOyDry+K49a6SsvfhhEvyovKTmiKe",
    "0xRvNlS9H15ZFblzqMF8b3ti6RZsR1pl8w4Rm0bZ/W3c1pzAtH2lsN0/Vm+h+fbkEkj9Bn8SV7apI09bA8PgcSojt/ew",
    "sTu8mL3WmKgMa/aOEmem8rJY5AIJEzypuxC00jBF8ez3ABHfZfjcK0NVvxaXxA/VLGGEqnKG/uY6fsI/fe78LxQ+5oXd",
    "UG+3Se0CAwEAAQ=="],
  ["ME8xCzAJBgNVBAYTAlVTMSkwJwYDVQQKEyBJbnRlcm5ldCBTZWN1cml0eSBSZXNlYXJjaCBHcm91cDEVMBMGA1UEAxMM",
    "SVNSRyBSb290IFgxMIICIjANBgkqhkiG9w0BAQEFAAOCAg8AMIICCgKCAgEAregkc/QUN/ObnitXKByHvty33ziQjG48",
    "5legePd1wqL+9Wpu9gBPKNveaIZsRJO2sWP9FBJrvx/S6jGbIX7RMzy6SPXded+zuP8S8SGaS8GKhnFpSmZmbI9+PHC/",
    "rSkiBvPkwOaAruJLj7eZfpQDn9NHl3yZSCNT6DiuTwpvgy7RSVeMgHS22i/QOI17A3AhG3XyMDz6j67d2mOr6xZPwo4R",
    "S37PC+j/tXcu9LJ7SuBMEiUMcI0DKaDhUyTsE9nuGb8Qs0qMP4mjYVHerIcHlPRjcewu4m9bmIHhiVw0eWx27zuQYnnm",
    "26SaLybF0BDhDt7ZEI4W+7f3qPfH5QIHmI82CJXn4jeWDTZ1nvsOcrEdm7wD+UkF2IHdBbQq1kHprAF2lQoP2N/VvRIf",
    "NS8oF2zSmMGoCWR3bkc3us6sWV5onX9y1onFBkEpPlk+3Sb1JMkRp1qjTEAfRqGZtac6UW6GO559cqcSBXhZ7T5ReBUL",
    "A4+N0C8Fsj57ShxLcwUS/Mbq4FATfEOTdLPKdOeOHwEI0DDUW3E2tAe6wTAwXEi3gjuYpn1giqKjKYLMur2DBBuigwNB",
    "odYF8RvCtvCofIY7RqhIKojcdpp2vx9qpT0Zj+s482TeyCsNCij/99viFULUItAnXeF5/hjncIitTubZizrG3SdRbv+8",
    "ZPUzQ08CAwEAAQ=="],
  ["ME8xCzAJBgNVBAYTAlVTMSkwJwYDVQQKEyBJbnRlcm5ldCBTZWN1cml0eSBSZXNlYXJjaCBHcm91cDEVMBMGA1UEAxMM",
    "SVNSRyBSb290IFgyMHYwEAYHKoZIzj0CAQYFK4EEACIDYgAEzZvVn4CDCuwJSvMWSj5cz3es3mcFDR0HttwW+1qLFNvi",
    "cWDEukWVEYmO6gbf9yoWHKS5xcUy4APgHoIYOIvXRdgKam7mAHf7AlF9ItgKbppbd9/w+kHsOdx1ymgHDB/q"],
  ["MFAxCzAJBgNVBAYTAkRFMRUwEwYDVQQKDAxELVRydXN0IEdtYkgxKjAoBgNVBAMMIUQtVFJVU1QgUm9vdCBDbGFzcyAz",
    "IENBIDIgRVYgMjAwOTCCASIwDQYJKoZIhvcNAQEBBQADggEPADCCAQoCggEBAJnxhDRwui+3MKCOvXwEz75ivJn9gpfS",
    "egpnljgJ9hBOlSJzmY3aFS3nBfwZcyK3jpgAvDw9rKFs+9Z5JUut8Mxk2og+KbgPCdM03TP1YtHhzRnp7hhPTFiu4h7W",
    "DFsVWtg6uMQYZB7jM7K1iXdODL/ZlGsTl28So/6ZqQTMFexgaDbtCHu39b+T7WYxg4zGcTSHThfqr4uRjRxWQa4iN143",
    "8h3Z0S0NL2lRp75mpoo6Kr3HGrHhFPC+Oh25z1uxav60sUYgovseO3Dvk5h9jHOW8sXvhXCtKSb8HgQ+HKDYD8tSg2J8",
    "7otTlZCpV6LqYQXY+U3EJ/pure3511H3a6UCAwEAAQ=="],
  ["MFAxCzAJBgNVBAYTAkpQMRgwFgYDVQQKEw9TRUNPTSBUcnVzdC5uZXQxJzAlBgNVBAsTHlNlY3VyaXR5IENvbW11bmlj",
    "YXRpb24gUm9vdENBMTCCASIwDQYJKoZIhvcNAQEBBQADggEPADCCAQoCggEBALOz/n/TbbHvFnxXpQxtdoovS79k+0zu",
    "ivDzKXz1/+4q4OnpultkIpqabyw6JmlRBZkm3NUcanHGmn0end18bMaMZ2dKPvhxsBknqQkMppW/S4wM+lWYO9joIqFL",
    "cTh5rJeSabOJfuohaAaYFJaH0mE2vG0nVp5X7sDAVv0yz6TZjsIj142o89glrJfkcDj0tjq0nTuXJkOjobxJWXJMIzCH",
    "AVj2Tr4caFZmr81BXcizTSpVRqsf2h7iQD3bzX25koCcN90MlmSd3CL3ZIvfYd4VlFIVoH1SyUuoIcnGse3Lw5Vg0Q/w",
    "q3D438tNfuzW+qvZvX9U8qXpefrZ1nYkKHMCAwEAAQ=="],
  ["MFAxJDAiBgNVBAsTG0dsb2JhbFNpZ24gRUNDIFJvb3QgQ0EgLSBSNDETMBEGA1UEChMKR2xvYmFsU2lnbjETMBEGA1UE",
    "AxMKR2xvYmFsU2lnbjBZMBMGByqGSM49AgEGCCqGSM49AwEHA0IABLjGedOPbCUOny45GRwDpK6a5TkHCRbKY7G5hviK",
    "V8FXzkL6c6H3ZUL/HsEAsm5zDv/HIeUYpKrZcT+o1LnOjB0="],
  ["MFAxJDAiBgNVBAsTG0dsb2JhbFNpZ24gRUNDIFJvb3QgQ0EgLSBSNTETMBEGA1UEChMKR2xvYmFsU2lnbjETMBEGA1UE",
    "AxMKR2xvYmFsU2lnbjB2MBAGByqGSM49AgEGBSuBBAAiA2IABEdFDpb7fV2/6TnRIfifC7bVex6SOkhZHPBiMS3Aeij+",
    "Gqdcs7bMl+dF1Fj60XdtQ6LAh2U0Ch963es8M6HFnU2kb0GVOH/JHoTr0Z5JkoeUhww6hUpmn51Zk02XYQaGSg=="],
  ["MFExCzAJBgNVBAYTAkVTMUIwQAYDVQQDDDlBdXRvcmlkYWQgZGUgQ2VydGlmaWNhY2lvbiBGaXJtYXByb2Zlc2lvbmFs",
    "IENJRiBBNjI2MzQwNjgwggIiMA0GCSqGSIb3DQEBAQUAA4ICDwAwggIKAoICAQDKlmuO6vj78aI14H9M2uDDUtd9thDI",
    "Al6zQyrET2qyyhxdKJp4ERppWVevtSBC5IsP5t9bpgOSL/UR5GLXMnE42QQMcas9UX4PB99jBVzpv5RvwSmCwLTaUbDB",
    "PLutN0pcyvFLNg4kq7/DhHf9qFD0sefGL9ItWY16Ck6WaVICqjaY7Pz6FIMMNx/Jkjd/14Et5cS54D40/mf0PmbR0/RA",
    "z15iNA9wBj4gGFrO93IbJWyTdBSTo3OxDqqHECNZXyAFGUftaI6SEspd/NYrspI8IM/hX68gvqB2f3bl7BqGYTM+53u0",
    "P6APjqK5am+5hyZvQWyIplD9amML9ZMWGxmPsu2bm8mQ9QEM3xk9Dz44I8kvjwzRAv4bVdZO0I08r0+k8/6vKtMFnXkI",
    "octXMbScyJCyZ/QYFpM6/EfY0XiWMR+6KwxfXZmtY4laJCB22N/9q06mIqqdXuYnin1oKaPnirjaEbsXLZmdEyRG98Xi",
    "2J+Of8ePdG1asuhy9azuJBCtLxTa/y2aRnFHvkLfuwHb9H/TKI8xWVvTyQKmtFLKbpf7Q8UIJm+K9Lv9nyiqDdVF8xM6",
    "HdjAeI9BZzwelGSuewvF6NkBiDkal4ZkQdU7hwxu+g/GvUgUvzlN1J5Bto+WHWOWk9mVBngxaJ43BjuAiUVhOSPHG0Sj",
    "FeUc+JIwuwIDAQAB"],
  ["MFExCzAJBgNVBAYTAlBMMSgwJgYDVQQKDB9LcmFqb3dhIEl6YmEgUm96bGljemVuaW93YSBTLkEuMRgwFgYDVQQDDA9T",
    "WkFGSVIgUk9PVCBDQTIwggEiMA0GCSqGSIb3DQEBAQUAA4IBDwAwggEKAoIBAQC3vD5QqEvNQLXOYeeWyrSh2gwisPq1",
    "e3YAd4wLz32ohswmUeQgPYUM1ljj5/QqGJ3a0a4m7utT3PSQ1hNKDJA8w/Ta0o4NkjrcsbH/ON7Dui1fgLkCvUqdGw+0",
    "w8LBZwPd3BucPbOw3gAeqDRHu5rr/gsUvTaE2g0gv/pby6kWIK05YO4vdbbnl5z5Pv1+TW9NL++IDWr63fE9biCloBK0",
    "TXC5ztdyO4mTp4CEHCdJckm1/zuVnsHMyAHs6A6KCpbns6aH5db5BSsNl0BwPLqsdVqc1U2dAgrSS5tmS0YHF2Wtn2yI",
    "ANwiieDhZNRnvDF5YTy7ykHNXGoAyDw4jlivAgMBAAE="],
  ["MFExCzAJBgNVBAYTAlRXMRIwEAYDVQQKEwlUQUlXQU4tQ0ExEDAOBgNVBAsTB1Jvb3QgQ0ExHDAaBgNVBAMTE1RXQ0Eg",
    "R2xvYmFsIFJvb3QgQ0EwggIiMA0GCSqGSIb3DQEBAQUAA4ICDwAwggIKAoICAQCwBdvI64zEbooh745NnHEKH1Jw7W2C",
    "nJfF10xORUnLQEK1EjRsGcJ0pDFfhQKX7EMzClPSnIyOt7h52yvVavKOZsTuKwEHktSz0ALfUPZVr2YOy+BHYC8rMjk1",
    "Ujoog/h7FsYYuGLWRyWRzvAZEk2tY/XTP3VfKfChMBwqoJimFb3u/Rk28OKRQ4/6ytYQJ0lM793B8YVwm8rqqFpD/G2G",
    "b3PpN0Wp8DbHzIh1HrtsBv+baz4X7GGqcXzGHaL3SekVtTzWoWH1EfcFbx39Eb7QMAfCKbAJTibc46KokWofwpFFiFzl",
    "mLhxpRUZyXx1EcxwdE8tmx2RRP1WKKD+u4ZqyPpcC1jcxkt2yKsi2XMPpfRaAok/T54igu6idFMqPVMnaR1sjjIsZAAm",
    "Y2E2TqNGtz99sy2sbZCilaLOz9qC5wc0GZbpuCGqKX6mOL6OKUohZnkfs8O1CWfe1tQHRvMq2uYiN2DLgbYPoA/pyJV/",
    "v1WRBXrPPRXAb94JlAGD1zQbzECl8LibZ9WYkTunhHiVJqRaCPgrdLQABDzfuBSO6N+pjWxnkjMdwLfS7JLIvgm/LCkF",
    "bwJrnu+8vyq8W8BQj0FwcYeyTbcEqYSjMq+u7msXi7Kx/mzhkIyIqJdIzshNy/MGz19qCkKxHh53L46g5pIOBvwFItIm",
    "4TFRfTLcDwIDAQAB"],
  ["MFIxCzAJBgNVBAYTAlNLMRMwEQYDVQQHEwpCcmF0aXNsYXZhMRMwEQYDVQQKEwpEaXNpZyBhLnMuMRkwFwYDVQQDExBD",
    "QSBEaXNpZyBSb290IFIyMIICIjANBgkqhkiG9w0BAQEFAAOCAg8AMIICCgKCAgEAoqPEAAnWhV0tbRT2wsNznjXCcVV+",
    "gfurRlDgwXxJeOareVg82v98HJ/YlwJ4PmtBBOlBvb4DLEX2L2TUq12jRz1km+lomsbMGz+6vrKLNAIumFUZ/Ixvql/a",
    "TM5NAyGj2NI0k1aWy0wMABY8XxrNyMdspq3TMae86OXhZtbS+wO0QWXJEK4OBWPGgGppMP3S7pDvDSffn5Vz9OEl2mwW",
    "3kE4NOqL/NHoBBRhLUF+rMd3TstRVPtekhgbBFpoxsnE+rcToJi3ESu31lfMfJ4X0csl/oZOJC5WDHhNngESpiunAWVu",
    "fGIdhITf6sBrtaUqlYPDUxEMcx0LskaQ0UI6zkBula3/xpStbpeEjn1vnoqADUltc+J7kh7D88Hz6y4Fb9kbzzd2BMi0",
    "WuQXp8vddh/QGXboLAWz1pw02JbcYYeRBeRECDPB2rkIZdSusjYN67o4ugzlm57rjWbdmc/WiUH2BJKKKSltazoc53V9",
    "AnEO88DnvcsZ3Z1gssJmYLaxBO7J5oa5mmZAqOcR7YFFA4v2Z1nowQYRvd3PgAJPZUB4XEdQyJvmH4F75ESoW4Wa4t5a",
    "1cf5OkRmS+QyVHzkbJyzDj0XorI0EtZ+sqhJu9F6KEC+ohYf3+Q3HxFz+5AKZUOiDXz4BgFVM32wDbj09a6lQld8NhGM",
    "e17EA52MeZ0CAwEAAQ=="],
  ["MFQxCzAJBgNVBAYTAkNOMSYwJAYDVQQKDB1CRUlKSU5HIENFUlRJRklDQVRFIEFVVEhPUklUWTEdMBsGA1UEAwwUQkpD",
    "QSBHbG9iYWwgUm9vdCBDQTEwggIiMA0GCSqGSIb3DQEBAQUAA4ICDwAwggIKAoICAQDxZgi92cUVYcuEBEGlaTd3HcGw",
    "e/rDd0iQE3Jk0bh8kDWdGHmI45cBPEeB8g6imA2ePzfgGbKQ8kYckrE6Yc76t0aeA4bXM27t90WMdjfebpaR99d+K4cX",
    "1Ys17oSRclfcYMPDuefHZyQjT2MKY/ZmfUtVpz94ZElpEpfgTA3TCaAyMDr6n8DynMUSKi4ctQQz2qQ4EWrexhj2Rzoi",
    "QYci/MSJKFTYjKUwCvgXFsqsN/15p5EXeDiZrVjtst7MiX0DnLOJZefjO7Eiho8GbXgH/ZESf7BrHIkN+bjLdFsHwsj0",
    "NdFkY3rpbpoo1jC95hvdFa+E6pzHyvUO6vJdKYePaXM5vi4kb0UhrMXUaSUGg616SIUTLA0GuGx5VvyjZzKB9VelyldC",
    "aelcJGHv4jAYTkSYVW96wpPYGbbefEeKEU5JR9solAILlEos+RLQT+gxfmx6v6Y/mzk9AhajGLNnrFs/LIMrZzmBXLl+",
    "lNVk3Z6Pbq7ofFu012pHSNd+s9QtjlZ2Ts9p8W5EbNQk6o0koRi/vVf+qZk1tdsQd7g9SLrWwefxIz7X34WdJzzUQL0K",
    "DL31540l1oF0h0bUKXWiQmz3c4nnfb96Sh/TIskVVc/fb3xV0KSLBxE3X4OmJlemAVt+/lhoB6npetm56P9QH6vCtMDO",
    "6Or9D72NTbi8cQIDAQAB"],
  ["MFQxCzAJBgNVBAYTAkNOMSYwJAYDVQQKDB1CRUlKSU5HIENFUlRJRklDQVRFIEFVVEhPUklUWTEdMBsGA1UEAwwUQkpD",
    "QSBHbG9iYWwgUm9vdCBDQTIwdjAQBgcqhkjOPQIBBgUrgQQAIgNiAASdy4CRjVNntblQsQP45UkfQSIJsFFSWNYrNI/F",
    "EkYUxYsvLIT/LG6o1fEJ4wMhFMRDPXzBLMRLakrN6YfgffYivvpKUbgwiv3h3hgSCvZHt+cXvyeK1EFMljxglsH9FRw="],
  ["MFYxCzAJBgNVBAYTAkNOMTAwLgYDVQQKDCdDaGluYSBGaW5hbmNpYWwgQ2VydGlmaWNhdGlvbiBBdXRob3JpdHkxFTAT",
    "BgNVBAMMDENGQ0EgRVYgUk9PVDCCAiIwDQYJKoZIhvcNAQEBBQADggIPADCCAgoCggIBANdda80QPx8FWdUFTTexDuyY",
    "K44VHfqTSxeCIXEQUtdRZHAWwlVpTY4VbZ+/DBvC4KNn1gyszyKur3dUKktMilNSesPuLt6zcSXB6V097qEvo/cqPMkj",
    "HWqrHaGn8fPsoNVEzxXPci8dY5fomfn9k6RUgExS1FKrLknfkM24X74/3qHKTSDUJeiEKVO3sYgf//rakJ8KqS1BP7Hx",
    "GCnuFlksNEkaqAbXqIjSA3J6MuLqaE1uLJZle8pZ+vLi3e4wLPvMRqzEY+tvfzYrNHMSlH/fzCae8XJdUGVZj2mzh14y",
    "b8MYirWVj7B6N95aRTvHNuHvZ9E505dbc2IZSC2HHAb7dJggSXPwBdIbsaCjtxtw04hpuVrWOPRi3CWLeL/46H64XMmV",
    "T1+nLbkga89r3fUN9IK39LJmLhAo9pdae5YWjwEZLWxufzlYBmSDAYODw02S3TLGh6Q36RbOqi1orwqBZTpwwZutTW1U",
    "yiotS4Ubs4DmcEUNa1418H87uJzkBHCJEiWT2gqZImBqY2BOdgaYTr2DrR1YiiWF0sdlHi2Oxt+2xuF/igQhFSl08D6c",
    "kJ0MLvGKPlqqDAkex9U8o+2Xwx40+jj5CA7jwF0rg9FWasm2qFRTLngyZz2Cf3TQ++G2BWC5cNuOC/kTWG9xYBBSELnB",
    "QQnvch9nMXj/lgWNAgMBAAE="],
  ["MFYxCzAJBgNVBAYTAlVTMRMwEQYDVQQLEwplbVNpZ24gUEtJMRQwEgYDVQQKEwtlTXVkaHJhIEluYzEcMBoGA1UEAxMT",
    "ZW1TaWduIFJvb3QgQ0EgLSBDMTCCASIwDQYJKoZIhvcNAQEBBQADggEPADCCAQoCggEBAM/rqbnxmQXM2CghSvNzNFGE",
    "VhD1oE8sEuP6E5on0M/5eRp0Xx15Ofxb+HCO4JJS9+Ql+VSD2R3TyFqFP17HtgfuPsDOmq+sVkIqOSVw1r+1ezatrPZz",
    "3M3XHYqDpfsrkBU3axwmR9w7KVaTarPBajqdPfXBlzhYBYscEePktLhdhR2D/nhfC0VoGEilRnM0O/4PyHa7xxjzBdGG",
    "84Xt57nZMq1ViM6mtpGwT6x+FSOW9j/wIDQW3grGxARFeX+n/b7SqaWvnMUjKvc8IWy9r49OxTqy8zQS/N+AGkmk1KmV",
    "956JXqKJrJTLqGibr4plJ82J7t2MtWspcEOgaQvkuQ8CAwEAAQ=="],
  ["MFcxCzAJBgNVBAYTAkJFMRkwFwYDVQQKExBHbG9iYWxTaWduIG52LXNhMRAwDgYDVQQLEwdSb290IENBMRswGQYDVQQD",
    "ExJHbG9iYWxTaWduIFJvb3QgQ0EwggEiMA0GCSqGSIb3DQEBAQUAA4IBDwAwggEKAoIBAQDaDuaZjc6j40+Kfvvxi4Ml",
    "a+pIH/EqsLmVEQS98GPR4mdmzxzdzxtIK+6NiY6arymAZavpxy0Sy6scTHAHoT0KMM0VjU/43dSMUBUc71DuxC73/OlS",
    "8pF94G3VNTCOXkNz8kHp1Wrjsok6Vjk4bwY8iGlbKk3Fp1S4bInMm/k8yuX9ifUSPJJ4ltbcdG6TRGHRjcdGsnUOhugZ",
    "itVtbNV4FpWi6cgKOOvyJBNPc1STE4U6G7weNLWLBYy5d4ux2x8gkasJU26Qzns3dLlwR5EiUWMWea6xrkEmCMgZK9FG",
    "qkjWZCrXgzT/LCrBbBlDSgeF59N89iFo7+ryUp9/k5DPAgMBAAE="],
  ["MFgxCzAJBgNVBAYTAkpQMSswKQYDVQQKEyJKYXBhbiBDZXJ0aWZpY2F0aW9uIFNlcnZpY2VzLCBJbmMuMRwwGgYDVQQD",
    "ExNTZWN1cmVTaWduIFJvb3RDQTExMIIBIjANBgkqhkiG9w0BAQEFAAOCAQ8AMIIBCgKCAQEA/XeqpRyQBTvLTJszi1oU",
    "RaTnkBbR31fSIRCkF/3frNYfp+TbfPfs37gD2pRY/V1yfIw/XwFndBWW4wI8h9uuywGOwvNmxoVF9ALGOrVisq/6nL+k",
    "5tSAMJjzDbaTj6nU2DbysPyKyiyhFTOVMdrAG/LuYpmGYz+/3ZMqg6h2uRMft85OQoWPIucuGvKVCbIFtUROd6Egvany",
    "Tgp9UK31BQ1FT0Zx/Sg+U/sE2C3XZR1KG/rPO7AxmjVuyIsG0wCR8pQIZUyxNAYAeoni8McDWc/V1uinMrPmmECGxc0n",
    "EovMe863ETxiYAcjPitAbpSACW22s293bzUIUPsCh8U+iQIDAQAB"],
  ["MFoxCzAJBgNVBAYTAkNOMSUwIwYDVQQKDBxUcnVzdEFzaWEgVGVjaG5vbG9naWVzLCBJbmMuMSQwIgYDVQQDDBtUcnVz",
    "dEFzaWEgR2xvYmFsIFJvb3QgQ0EgRzMwggIiMA0GCSqGSIb3DQEBAQUAA4ICDwAwggIKAoICAQDAMYJhkuSUGwoqZdC+",
    "BqmHO1ES6nBBruL7dOoKjbmzTNyPtxNST1QY4SxzlZHFZjtqz6xjbYdT8PfxObegQ2OwxANdV6nnRM7EoYNl9lA+sX4W",
    "uDqKAtCWHwDNBSHvBm3dIZwZQ0WhxeiAysKtQGIXBsaqvPPW5vxQfmZCHzyLpnl5hkA1nyDvP+uLRx+PjsXUjrYsyUQE",
    "49RDdT/VP68czH5GX6zfZBCK70bwkPAPLfSIC7Epqq+FqklYqL9joDiR5rPmd2jE+SoZhLsO4fWvieylL1AgdB4SQXMe",
    "JNnKziyhWTXAyB1GJ2Faj/lN03J5Zh6fFZAhLf3ti1ZwA0pJPn9pMRJpxx5cynoTi+jm9WAPzJMshH/x/Gr8m0ed262I",
    "PfN2dTPXS6TIi/n1Q1hPy8gDVI+lhXgEGvNz8teHHUGf59gXzhqcD0r83ERoVGjiQTz+LISGNzzNPy+i2+f3VANfWdP3",
    "kXjHi3dqFuVJhZBFcnAvkV34PmVACxmZySYgWmjBNb9Pp1Hx2BErW+Canig7CjoKH8GB5S7wprlppYiU5msTf9FkPz2c",
    "cEblooV7WIQn3MSAPmeamseaMQ4w7OYXQJXZRe0Blqq/DPNL0WP3E1jAuPP6Z92bfW1K/zJMtSU7/xxnD4UiWQWRkUF3",
    "gdCFTIcQcf+eQxuulXUtgQIDAQAB"],
  ["MFoxCzAJBgNVBAYTAkNOMSUwIwYDVQQKDBxUcnVzdEFzaWEgVGVjaG5vbG9naWVzLCBJbmMuMSQwIgYDVQQDDBtUcnVz",
    "dEFzaWEgR2xvYmFsIFJvb3QgQ0EgRzQwdjAQBgcqhkjOPQIBBgUrgQQAIgNiAATxs8045CVD5d4ZCbuBeaIVXxVjAd7C",
    "q92zphtnS4CDr5nLrBfbK5bKfFJV4hrhPVbwLxYI+hW8m7tH5j/uqOFMjPXTNvk4XatwmkcN4oFBButJ+bAp3TPsUKV/",
    "eSm4IJg="],
  ["MFoxCzAJBgNVBAYTAkZSMRIwEAYDVQQKDAlEaGlteW90aXMxHDAaBgNVBAsMEzAwMDIgNDgxNDYzMDgxMDAwMzYxGTAX",
    "BgNVBAMMEENlcnRpZ25hIFJvb3QgQ0EwggIiMA0GCSqGSIb3DQEBAQUAA4ICDwAwggIKAoICAQDNGDllGlmx6mQWDoyU",
    "JJV8g9PFOSbcDO8WV43X2KyjQn+Cyu3NW9sOty3tRQgXstmzy9YXUnIo245Onoq2C/mehJpNdt4iKVzSs9IGPjA5qXSj",
    "klYcoW9MCiBtnyN6tMbaLOQdLNyzKNAT8kxOAkmhVECe5uUFoC2EyP+YbNDrihqECB63aCPuI9Vwzm1RaRDuoXrC0SIx",
    "woKF0vJVdlB8JXrJhFwLrN1CTivngqIkicuQstDuI7pmTLtipPlTWmR7fJj6o0ieD5Wupxj0auwuA0Wv8HT4Ks16XdG+",
    "RCYyKfHx9WzMfgIhC59vpD++nVPiz32pLHxYGpfhPTc3GGYo0kDFUYqMwy3OU4gkWGQwFsWq4NYKpkDfePb1BHxpE4S8",
    "0dGnBs8B92jAqFe7OmGtBIyT46388NtEbVncSVmurJqZNjBBe3YzIoejwpKGbvlw7q6Hh5UbxHq9MfPU0uWZ/75I7HX1",
    "eBYdpnDBfzwboZL7z8g81sWTCo/1VTp2lc5ZmIoJlXcymoO6LAQ6l73UL77XbJuiyn1tJslV1c/DeVIICZkHJC1kJWum",
    "IWmbat10TWuXekG9qxf5kBdIjzb5LdXF2+6qhUVB+s06RbFo5jZMm5BX7CO5hwjCxAnxl4YqKE3idMDaxIzb3+KhF1nO",
    "JFl0Mdp//TBt2dzhauH8XwIDAQAB"],
  ["MFoxCzAJBgNVBAYTAklFMRIwEAYDVQQKEwlCYWx0aW1vcmUxEzARBgNVBAsTCkN5YmVyVHJ1c3QxIjAgBgNVBAMTGUJh",
    "bHRpbW9yZSBDeWJlclRydXN0IFJvb3QwggEiMA0GCSqGSIb3DQEBAQUAA4IBDwAwggEKAoIBAQCjBLsiq5g9V+gmcpq1",
    "edQp4uHolYCxsONbjispmmTfoV3tsAkFbdsoLs5iomL+tIjaEus46yGdwEErAVJ7iHfTHI/HurmItWoJ53PoEUCn0czK",
    "Yo0t5Y8LplDSqFDDKOr1qyWHipqWHKlnuD8M1ff5UhMvwhvVcHDwj8ASygbLmuHZyjN6d9b47LnxaERCSBPSwMKkrl5g",
    "/ramBfy03QdZAtRZGJhj9aVj4JAMfV2yBnrzherr1AOuXoQ+X/8V7Wm8+Tk2cnXPd1JN88mQLLk95ckjUz8fJJghXAeZ",
    "Kb3GOuznboY6a5d0YzO9aBgx8HiNdr/8no5dKoanTZDcJxo5AgMBAAE="],
  ["MFoxCzAJBgNVBAYTAlVTMRMwEQYDVQQLEwplbVNpZ24gUEtJMRQwEgYDVQQKEwtlTXVkaHJhIEluYzEgMB4GA1UEAxMX",
    "ZW1TaWduIEVDQyBSb290IENBIC0gQzMwdjAQBgcqhkjOPQIBBgUrgQQAIgNiAAT9pWGueyYQHem3IjCuBvSBs7FCcZU5",
    "vNNS46+v+fKXNZI2Rg6HlY25OVrpu9/Q/sgHQTy7VW+Do2r7YrCBiQJwfUjFSuPpIlQiTZO7Qgyvd5wjpn3XYRHOZcf4",
    "f/718qk="],
  ["MF0xCzAJBgNVBAYTAkpQMSUwIwYDVQQKExxTRUNPTSBUcnVzdCBTeXN0ZW1zIENPLixMVEQuMScwJQYDVQQDEx5TZWN1",
    "cml0eSBDb21tdW5pY2F0aW9uIFJvb3RDQTMwggIiMA0GCSqGSIb3DQEBAQUAA4ICDwAwggIKAoICAQDjyXJJ9zDeCXyp",
    "QIFY07Q63bphD5NQbmk8NcLuW3OQG2dMIexfNbs5PisKYO+7bSuG+3GiyKzkVpT5ya+xctQgrHTSuBWtUf6FdKG5EP4F",
    "gPlSk7NAPXUQrMCWt6d+drzjG1IZzhEfCwQ09dj1aTx382T0DaqF3uAJUAQXloS3yIq8TXL8HLvP8wZN+Z9k936mZoY1",
    "ccgRgEzBcUBYHr6gc/b8PlDh4C8mPX5cI7V5cN764NGl1gxBcXv36owciMfsi/XRL1WWRnxaO1g7+7rYLbUl2npOz0Su",
    "IaaemMogbny7iIVb+8AQYrvy+SdH79GJOUPE397hQb9UcyCXLWza89QHo+a52G+u/IwZLtNnZyuV21hctWoC87iDXrRr",
    "vkF+Vwl1RFBVzVoRYSEKYcKpiP0TvC2JL81h4JW+yrV74Xs0ZwsftgzHfB4ZU8qnsUoVIFYUcD0rgiwPnRUdR4BH/3iZ",
    "DjGvbz6P7YZpHnsYiBSywvyCMy6cSy37cDtxqit7JifzGsLc+xe4oerLoLSu05R+etCrw+w4LREuiL/UP60SO0KsjwJu",
    "fczRX2G+obw6akjqJlUiFl1fDf8nM58YA3SKW1IgR2tFTSJ3jFUn8K8ejMmDIlS3mtBP2c782S4cliixAtMDvSVSHDRm",
    "TyOr9HeClh3RVzAIEQX9V9HZxwIDAQAB"],
  ["MF0xCzAJBgNVBAYTAkpQMSUwIwYDVQQKExxTRUNPTSBUcnVzdCBTeXN0ZW1zIENPLixMVEQuMScwJQYDVQQLEx5TZWN1",
    "cml0eSBDb21tdW5pY2F0aW9uIFJvb3RDQTIwggEiMA0GCSqGSIb3DQEBAQUAA4IBDwAwggEKAoIBAQDQFTlSsVKzusVZ",
    "gsRdUq46Q2WAS8fylrzbNpfWpmSMqF7w4woc99+XPUuu9l3sIbVBq825fnafvvk+NjSgO8H2MRFFdJM9V4DF+YmZyuWr",
    "atS12kGQEMHW1kKJwr/0OBKVTFQF9zbkRYN7FGXW3AxN0d5+DKs7xBW+OlamWm92aVKpernI62qaXVLQLQprNRYJEITQ",
    "aso6BgA3R+R+V08/i+tnuIiqxb5TVbKRxH25sIUZBngu22Ea+oX1SpGh5xbVjqI535S4cB8oP4v8QF5jgzyDKhqZa8/e",
    "WWo7/G8W1x/9ShDrToIWOqwnDFPxrdUksGsDUMEtPBbdRDQnGnX7AgMBAAE="],
  ["MF4xCzAJBgNVBAYTAlRXMSMwIQYDVQQKDBpDaHVuZ2h3YSBUZWxlY29tIENvLiwgTHRkLjEqMCgGA1UECwwhZVBLSSBS",
    "b290IENlcnRpZmljYXRpb24gQXV0aG9yaXR5MIICIjANBgkqhkiG9w0BAQEFAAOCAg8AMIICCgKCAgEA4SUP7o3biDN1",
    "Z82tH306Tm2d0y8U82N0ywEhajfqhFAHSyZbCUNsIZ5qyNUD9WBpj8zwIuQf5/dqIjG3LBXy4P4AakP/h2XGtRrBp0xt",
    "InAhijHyl3SJCRImHJ7K2RKilTza6We/CKBk49ZCt0Xvl/T29de1ShUCWH2YWEtgvM3XDZoTM1PRYfl61dd4s5oz9wCG",
    "zh1NlDivqOx4UXCKXBCDUSH3ET00hl7lSM2XgYI1TBnsZfZrxQWh7kcT1rMhJ5QQCtkkO7q+RBNGMD+XPNjX12ruOzjj",
    "K9SXDrkb5wdJfzcq+Xd4z1TtW0ado4AOkUPB1ltfFLqfpo0kR0BZv3I4sjZsN/+Z0V0OWQqraffAsgRFelQArr5T9rXn",
    "4fg8ozHSqf4hUmTFpmfwdQcGlBSBVcYn5AGPF8Fqcde+S/uUWH1+ETOxQvdibBjWzwloPn9s9h6PYq2lY9sJpx8iQkEe",
    "b5mKPtf5P0B6ebClAZLSnT0IFaUQAS2zMnaolQ2zepr7BxB4EW/hj8e6DyUadCrlHJhBmd8hh+iVBmoKs2pHdmX2Os+P",
    "YhcZewoozRrSgx4hxyy/vv9haLdnG7t4TY3OZ+XkwY63I2binZB1NJipNiuKmpS5nezMirH4JYlcWrYvjB9teSSnUmjD",
    "hDXiZo1jDiVN1Rmy5nk3pyKdVDECAwEAAQ=="],
  ["MF8xCzAJBgNVBAYTAkdCMRgwFgYDVQQKEw9TZWN0aWdvIExpbWl0ZWQxNjA0BgNVBAMTLVNlY3RpZ28gUHVibGljIFNl",
    "cnZlciBBdXRoZW50aWNhdGlvbiBSb290IEU0NjB2MBAGByqGSM49AgEGBSuBBAAiA2IABHb6maluIO3513fjBzuo2z1f",
    "OOirVaZWT9ZI6ux/LarDssV57JlhfxB5xwJa+QQ39TQ1K3fOfyCPUqMAiezVp6JtW+NLkpOggPUBlNzwaAceze7+JVK1",
    "IEMcG/7rGc5Dow=="],
  ["MF8xCzAJBgNVBAYTAkdCMRgwFgYDVQQKEw9TZWN0aWdvIExpbWl0ZWQxNjA0BgNVBAMTLVNlY3RpZ28gUHVibGljIFNl",
    "cnZlciBBdXRoZW50aWNhdGlvbiBSb290IFI0NjCCAiIwDQYJKoZIhvcNAQEBBQADggIPADCCAgoCggIBAJO+1TZSddgB",
    "I6AcR0JJ7mO2tyH9xJXVSCsmfBRTENp5/Su3LaTULPrqMt1Jwrm9D0g9e1qYVK+eXTF0Twf8UCHdpM9oTxsSY20lmUwq",
    "mfNIMGH6gXwepwhK3D4rHB8YTHGqNYyt+G7oO0rZ5ZQC1omEE6ptyE8zzFCWN5Iz3F+I559U2UjwmEPWZv2fFzhDxQFR",
    "C9fjIw8UXVsU50u+3fTI2gM30dY5oSFRMIOwbdcwTpZbkfBwJKu/RYFkQw29ITovPOmeDcsgtUInzNpvm+5kMJA5zZNl",
    "gSExtSNQMzci4zjt+DEwzEX+YvnRXTJ5QoffasxWGUBNzqq7+bV2SZTxJ/iRpYPlBrNjDoDc4BJVgKY7ZrQ5hy3I8NDR",
    "FOnkDU0O9l1XcsU7HEdWneLV+4FhjMxNgJA0W7fXFHXc2ARIn8DBKIi06RzKp7HxVrd7SUxZ5SAVqIQCKfo4lGmaSQaP",
    "zR95FBcSDIN63h+xl+75l3gopMhEkul9JgWmWHKbeRPYEV+uxThiNGiyhjCO+JBhnjJs9Qc2zaJMbuyKNu3y5pkVRHDD",
    "fLycOcC04Wv3gyUjV9kSgOVJ8HUP743rHJtUKLQhPPx8Cv/ve2t1/4sdoBkFq/r4K4FC6Di6u/uq/T3g88rfTpeXKe3z",
    "GFbppZasvcOQmLLg+aLUpkdDfG3PAgMBAAE="],
  ["MF8xCzAJBgNVBAYTAlRXMRIwEAYDVQQKDAlUQUlXQU4tQ0ExEDAOBgNVBAsMB1Jvb3QgQ0ExKjAoBgNVBAMMIVRXQ0Eg",
    "Um9vdCBDZXJ0aWZpY2F0aW9uIEF1dGhvcml0eTCCASIwDQYJKoZIhvcNAQEBBQADggEPADCCAQoCggEBALB+crikA5Tm",
    "p94JOJFKEUCHp3xZZBR7tREQ3f6/1cC7VuKFJfQ1cg/4U9BB4UQBwrQcwzFCFkeFMyJ2sgpvD+UlUE+Fhr6/mC4QZx6+",
    "EQWGBZDEWdB8eBCwgFy34ccrdct8n6610Z0jN2On3EKiLZIEG1DBe7g+G8lWBIsvUputqVbpwf+tqViHMLaB95dF/BlX",
    "Oytv5Ef0mUX+HfH4l6OIHTccXI/gdiWaUPigVP9EkHYj0jLGw6sGv/z7v/OtfZJiAlsp0zWjk5pDZGBdsvoy/zsEr01A",
    "avnH4+8j/WvL5Q+LOA3uCvz+D5ifMDHdbFJl+YuBviLhHFgDupEbiQcCAwEAAQ=="],
  ["MGExCzAJBgNVBAYTAkpQMSUwIwYDVQQKExxTRUNPTSBUcnVzdCBTeXN0ZW1zIENPLixMVEQuMSswKQYDVQQDEyJTZWN1",
    "cml0eSBDb21tdW5pY2F0aW9uIEVDQyBSb290Q0ExMHYwEAYHKoZIzj0CAQYFK4EEACIDYgAEpKVvYAMDw70x9NMXnCuE",
    "dazl/T1Xbtdjv+YEiZKOgZzj6UduypASyBPgp533ZXQfbBCy6OTp722FMplEsV79zHYQ2Fu9osb51kLkV3bckMI1qUuI",
    "PBJHbVz/SU8aSlCx"],
  ["MGExCzAJBgNVBAYTAlROMTcwNQYDVQQKDC5BZ2VuY2UgTmF0aW9uYWxlIGRlIENlcnRpZmljYXRpb24gRWxlY3Ryb25p",
    "cXVlMRkwFwYDVQQDDBBUdW5UcnVzdCBSb290IENBMIICIjANBgkqhkiG9w0BAQEFAAOCAg8AMIICCgKCAgEAw83T/L0E",
    "U90MIDrViC4FS0H1g4J+91mfnp5j6HPa9gapTx+0+QsfOYyaINB+BtTsNNmGvHVbh4jw0tnUowqybBvrSSw+rF3YlAOg",
    "7DTlMMQ1ffsmTRtuMFTY9YBFnDmtnMklBE2akD5OQG6Ka80pZ8bMLeB06AVXCkhQ+npD2n7sW5oOYnb+6p0dhXLsEbs1",
    "6B8nv8Ghx7tIFt1W18xOoOG5rNvVgxkahdGUl9fKo2UL8zj5Aq7d9mfPyT/1iixHGplvBQ390B2CMfwpzABYl5FMgAAc",
    "M4WWL8tBwosQhMMJJIkftQ/Z2XdHGJKUYFzHmQM8/veVp31QoYDCqYOtWJZVIduGWdSvxrzdgW4H22Bi/uwQbtpoAfSD",
    "G6k+olsj12TG39yifdhLuoLSUfhmvwZG5HkqJjZ5jx9OmR2yjwwOHP/JXcD9kBCmsTfzzTokbrSFkL+AuQyM1ZvWyPFW",
    "PxqAiXqp4hsyUSw+8t979l16KRmO5ci9NnGLXUzCHT+tWKLPPXBNplCYJdwj+bhYQQhxv0+4hKCPAFQV/JFtWKeWO+tL",
    "lifNa6KhhqwNfFTmZkxmX5C+IZoCRi3kg8KAuc9LPuh/PAHsj17Nf9IoQgGViuKXPRAhffadHMU0oewsDgpSLBJVcCQ9",
    "y8IUNUNdJ06+wL2qfJbn/J5hrUTTAJcCAwEAAQ=="],
  ["MGExCzAJBgNVBAYTAlVTMRUwEwYDVQQKEwxEaWdpQ2VydCBJbmMxGTAXBgNVBAsTEHd3dy5kaWdpY2VydC5jb20xIDAe",
    "BgNVBAMTF0RpZ2lDZXJ0IEdsb2JhbCBSb290IENBMIIBIjANBgkqhkiG9w0BAQEFAAOCAQ8AMIIBCgKCAQEA4jvhEXLe",
    "qKTTo1eqUKKPC3eQyaKl7hLOllsBCSDMAZOnTjC3U/dDxGkAV53ijSLdhwZAAIEJzs4bg7/fzTtxRuLWZscFs3YnFo97",
    "nh6Vfe63SKMI2tavegw5BmV/Sl0fvBf4q77uKNd0f3p4mVmFaG5cIzJLv07A6Fpt43C/dxC//AH2hdmoRBBYMql1GNXR",
    "or5H4idq9Joz+EkIYIvUX7Q6hL+hqkpMfT7PT19sdl6gSzeRntwi5m3OFBqOasv+zbMUZBfHWymeMr/y7vrTC0LUq7dB",
    "MtoM1O/4gdW7jVg/tRvoSSiicNoxBN33shbyTApOB6jtSj1etX+jkMOvJwIDAQAB"],
  ["MGExCzAJBgNVBAYTAlVTMRUwEwYDVQQKEwxEaWdpQ2VydCBJbmMxGTAXBgNVBAsTEHd3dy5kaWdpY2VydC5jb20xIDAe",
    "BgNVBAMTF0RpZ2lDZXJ0IEdsb2JhbCBSb290IEcyMIIBIjANBgkqhkiG9w0BAQEFAAOCAQ8AMIIBCgKCAQEAuzfNNNx7",
    "a8myaJCtSnX/RrohCgiN9RlUyfuI2/Ou8jqJkTx65qsGGmvPrC3oXgkkRLpimn7Wo6h+4FR1IAWsULecYxpsMNzaHxmx",
    "1x7e/dfgy5SDN67sH0NO3Xss0r0upS/kqbitOtSZpLYl6ZtrAGCSYP9PIUkY92eQq2EGnI/yuum06ZIya7XzV+hdG82M",
    "HauVBJVJ8zUtluNJbd134/tJS7SsVQepj5WztCO7TG1F8PapspUwtP1MVYwnSlcUfIKdzXOS0xZKBgyMUNGPHgm+F6Hm",
    "Icr9g+UQvIOlCsRnKPZzFBQ9RnbDhxSJITRNrw9FDKZJobq7nMWxM4MphQIDAQAB"],
  ["MGExCzAJBgNVBAYTAlVTMRUwEwYDVQQKEwxEaWdpQ2VydCBJbmMxGTAXBgNVBAsTEHd3dy5kaWdpY2VydC5jb20xIDAe",
    "BgNVBAMTF0RpZ2lDZXJ0IEdsb2JhbCBSb290IEczMHYwEAYHKoZIzj0CAQYFK4EEACIDYgAE3afZu4q4C/sLfyHS8L6+",
    "c/MzXRq8NOrexpu80JX28MzQC7phW1FGfp4tn+6OYwwX7Adw9c+ELkCDnOg/QW07rdOkFFk2eJ0DQ+4QE2xy3q6Ip6Fr",
    "tUPOZ9wj/wMco+I+"],
  ["MGIxCzAJBgNVBAYTAkNOMTIwMAYDVQQKDClHVUFORyBET05HIENFUlRJRklDQVRFIEFVVEhPUklUWSBDTy4sTFRELjEf",
    "MB0GA1UEAwwWR0RDQSBUcnVzdEFVVEggUjUgUk9PVDCCAiIwDQYJKoZIhvcNAQEBBQADggIPADCCAgoCggIBANmjFvDI",
    "dHR3m+8zDTsGflX8tWCPdoYSQn1WZj6Igu1yYw6ei900LAJRUcMZ/VlUhMnxa7NMsOnoRl04xqKnLhFXuoIVopyPbbCZ",
    "Sgry64lwY055xLdbvaJdsfJBAiutqTqj7HkK7F864/3vgDytNJsaq4gme1aigoYf6zWJg39frilOPbZu7K7B8CebruP0",
    "7O+uf/eGPXJ666X7WU6n65WMIjl54S0Ij8y8kbhB9xTBI6nDrZpFRLOy1yzNxiniUBCuXMuCjhcYNn2X5oiasE00CfQs",
    "uVpmKrAXm54edp1KZjFB3z/7xQbvG7Z+GkY292RjO+M5GCPnZ3UU1XVXkje9vmobJlDyNiYGkMVwAWRtdmbhkdtuB8Bh",
    "gC6yLi+McKfROzyzkeRutsQ7cPJskpcJzUd9GMDzu54P1ouuB7ZaD84LDEen5T64vX3HmzWgYZc6QXUXzCuWdyqSIR7Z",
    "lXYgZ2jPDb3f1h8JaprizHNxpC99EoC3UzBGXktUmQ9nyaXI8iDBguydEd/CAvsaO9HtIJrvZWSSEA0q4t5w8Rhngoxh",
    "3ri80S+c+w/QK+0bdrnkOVX4+KEduKqAAEyC57J/Cbi8MKAvDfVSno73krMKAB0AVJcG4LEH2ccPXGV9PG1ZV+TtpY3p",
    "QFOfFUugcfYaIePacAYhWBSHhXd5qoJ5AgMBAAE="],
  ["MGIxCzAJBgNVBAYTAlVTMRUwEwYDVQQKEwxEaWdpQ2VydCBJbmMxGTAXBgNVBAsTEHd3dy5kaWdpY2VydC5jb20xITAf",
    "BgNVBAMTGERpZ2lDZXJ0IFRydXN0ZWQgUm9vdCBHNDCCAiIwDQYJKoZIhvcNAQEBBQADggIPADCCAgoCggIBAL/mkHNo",
    "3rvkXUo8MCIwaTPswqclLskhPfKK2FnC4SmnPVirdprNrnsbhA3EMB/zG6Q4FutWxpdtHauyefLKEdLkX9YFPFIPUh/G",
    "nhWlfr6fqVcWWVVyr2iTcMKyunWZanMylNEQRBAu34LzB4TmdDttceItDBvuINXJIB1jKS3O7F5OyJP4IWGbNOsFxl7s",
    "Wxq868nPzaw0QF+xembud8hIqGZXV59UWI4MK7dPpzDZVu7Ke13jrclPXuU15zHL2pNe3I6PgNq2kZhAkHnDeMe2scS1",
    "ahg4AxCN2NQ3pC4FfYj1gj4QkXCrVYJBMtfbBHMqbpEBfCFM1LyuGwN1XXhm2ToxRJozQL8I11pJpMLmqaBn3aQnvKFP",
    "ObURWBf3JFxGj2T3wWmIdph2PVldQnaHiZdpekjw4KISG2aadMreSx7nDmOu5tTvkpI6nj3cAORFJYm2mkQZK37AlLTS",
    "YW3rM9nF30sEAMx9HJXDj/chsrIRt7t/8tWMcCxBYKqxYxhElRp2Yn72gLD76GSmM9GJB+G9t+ZDpBi4pncB4Q+UDCEd",
    "slQpJYls5Q5SUUd0viastkF13nqsX40/ybzTQRESW+UQUOsxxcpyFiIJ33xMdT9j7CFfxCBRa2+xq4aLT8LWRV+dIPyh",
    "HsXAj6KxfgommfXkaS+YHS312amyHeUbAgMBAAE="],
  ["MGMxCzAJBgNVBAYTAlVTMSEwHwYDVQQKExhUaGUgR28gRGFkZHkgR3JvdXAsIEluYy4xMTAvBgNVBAsTKEdvIERhZGR5",
    "IENsYXNzIDIgQ2VydGlmaWNhdGlvbiBBdXRob3JpdHkwggEgMA0GCSqGSIb3DQEBAQUAA4IBDQAwggEIAoIBAQDendfq",
    "VxhJoVvr119Ihuq+3f/k72cc9GVos1dxoF53u+2bSelwgD1WGGMIb9ryzNA/fwJUIlQQ2LKB1MB1PUt/x3fDPnirGgO1",
    "IGsvaiuxxYh+xLsesMHYRSdvqjdY94cm19gt9qkXtx9yNk6mFz9lmJLbKm5dov6I4Avef+WNFeHryzrV4hKiEy3Yjq9f",
    "Ej2gCAUItlylZTgERZkeo2BgdMVBpXJiG2LFH29fGkK+AlFlqK4jGGr8eAOpTX+Aw/qrWvyhQKTKGRb+ssjvXnMN7ne9",
    "mvZ5mLyxB2eiFQ3doFjGRHsKPmIoX7pBB1NYzxF+OHTF+P+1aZCPhHTqlxuvAgED"],
  ["MGUxCzAJBgNVBAYTAlVTMRUwEwYDVQQKEwxEaWdpQ2VydCBJbmMxGTAXBgNVBAsTEHd3dy5kaWdpY2VydC5jb20xJDAi",
    "BgNVBAMTG0RpZ2lDZXJ0IEFzc3VyZWQgSUQgUm9vdCBDQTCCASIwDQYJKoZIhvcNAQEBBQADggEPADCCAQoCggEBAK0O",
    "Fc7kQ4BcsYfzt2D5cRKlrtwmlIiq9M71IDkoWGAM+IDaqRWVMmE8tbEohIqK3J8KDIMXeo+QrIrneVNcMYQq9g+YMjZ2",
    "zN7dPKii72r7IfJSYd+fINcf4rHZ/hhk0hJbX/lYGDW8R82hNvlrf9SwOD7BG8OMM9nYLxj+KA+zp4PWw25EwGE1lhb+",
    "WZyLdm3X8aJLDSv/C3LanmDQjpA1xnhVhyChz+VtCshJfDGYM2wi6YfQMlqiuhOCEe05F52ZOnKh5vqk2dUXMXWuhX0i",
    "rj8BRob2KHnIsdrkVxfEfhwOsLSSplazvbKX7aqn8LfFqD+VFtD/oZbrCF8Yd08CAwEAAQ=="],
  ["MGUxCzAJBgNVBAYTAlVTMRUwEwYDVQQKEwxEaWdpQ2VydCBJbmMxGTAXBgNVBAsTEHd3dy5kaWdpY2VydC5jb20xJDAi",
    "BgNVBAMTG0RpZ2lDZXJ0IEFzc3VyZWQgSUQgUm9vdCBHMjCCASIwDQYJKoZIhvcNAQEBBQADggEPADCCAQoCggEBANnn",
    "KC9SPzZySYiTNPP4ah4xVICfrVRBtUfflqjUr4AtuQrPdf2JpX0k+uMiDCu8lRcLM78ZTUEGkAC9DE0Q/ge15xxuIlUx",
    "ZZe90xfSHmLz2+psUIw/hAyWz7fLA+DKbaEUTBuJ3e0AsFJ8r5FssTgT0ekSCMAAsBwrEdp3cDabrs55h9yCcOYJdHBV",
    "aa+jaJ+/3bZ5s/KdcClV9Kv/lWHzyUBvHdG+k7vTiCq7nb9yWlZxOz/U89EK/ijvo+7Zma8D049gt/KSobG9iYkfMM3D",
    "pi5iM64WAndEWueBCjynRC55uD8EvFygh+Ebr1GOzews+vj+bfA6fKqL5GeVMY0CAwEAAQ=="],
  ["MGUxCzAJBgNVBAYTAlVTMRUwEwYDVQQKEwxEaWdpQ2VydCBJbmMxGTAXBgNVBAsTEHd3dy5kaWdpY2VydC5jb20xJDAi",
    "BgNVBAMTG0RpZ2lDZXJ0IEFzc3VyZWQgSUQgUm9vdCBHMzB2MBAGByqGSM49AgEGBSuBBAAiA2IABBnnvKxEZe3NuD9Y",
    "+42xV6lELQUV8u8L/xB0n7ViUl9mfh/l3BtFeQvMxlMKnY1dAtmpWd4CWvaVKg6NOEqKSca8xgM4B19V2n4JbuJ/XtBF",
    "IA9ZdhDWoCTwLd428mwpOQ=="],
  ["MGUxCzAJBgNVBAYTAlVTMR4wHAYDVQQKExVNaWNyb3NvZnQgQ29ycG9yYXRpb24xNjA0BgNVBAMTLU1pY3Jvc29mdCBF",
    "Q0MgUm9vdCBDZXJ0aWZpY2F0ZSBBdXRob3JpdHkgMjAxNzB2MBAGByqGSM49AgEGBSuBBAAiA2IABNS8PQJCdUETI82A",
    "BIYCUS9qqIFiC2XM9sqdHm9KZlGiA9mdkfq2FrGMbt58zdt5pi/Ou85xL+WlqyjsYwRmmfj68pMQBeGBKELjxmj05huE",
    "YEqJr+15DzvO8fZE9QF4wA=="],
  ["MGUxCzAJBgNVBAYTAlVTMR4wHAYDVQQKExVNaWNyb3NvZnQgQ29ycG9yYXRpb24xNjA0BgNVBAMTLU1pY3Jvc29mdCBS",
    "U0EgUm9vdCBDZXJ0aWZpY2F0ZSBBdXRob3JpdHkgMjAxNzCCAiIwDQYJKoZIhvcNAQEBBQADggIPADCCAgoCggIBAMpb",
    "vpQzjCmVkRYKlb1HYsGJ85k230aQyaXteGpvR5Fo+CdnUDMdoab74OVDo4QCVwFdnEhAglMQvL/HO2iQtoIt5fRl0Mxt",
    "GcyV+XusSpStDt5LQx2HB5ITkICDZDU5BPzl6Wyzth9QlDhlUFwXRrm2hbUctRfo1kWd2LImsMrEcEquYKTds9ns/DvV",
    "V3K8P8jJst5La/gjbAPABb2Vx81zO2aAZOMarC75RwXyBrabc/V4M1vHofsnKqG0mpGMkdM6gj52QLTNUmFRcCg/xcVa",
    "8smMSbsUW03I/2dNTBKWrfX+eKiXh9f9XiCA3KFLIvvUia26zkeXR1V7j0XIZyiElRxoMO/vSeA1e2TnmLCU2k2FOz5V",
    "xCivV/OeE9tGJ58eol5Eg6SlytUTs0s/xOPC5oZhpFIwuXogT28POFPLMwwTK4/Wmr0qyC2xHH1LUcpH0Ugncl2H69VF",
    "5khlna9SkLpbohhlVxKfaLnUFWuUxGkimPQz4O35UY5BUMk0T3aQrPw4wdjhe7nj45ThRmnLDgpQaxO6rA83WrcStZCB",
    "HlauVyKG2cnS0ddR46s7xlX9Hg7TdArR2qrqabiXKI9IxAf4UkM69MpVNSywpmrAnPnygeESasBF2Wezzv8jookKVNQU",
    "uSqo1+z5q80lWDJ5j5BbmDnECAbBrH8OPQClAgMBAAE="],
  ["MGcxCzAJBgNVBAYTAklOMRMwEQYDVQQLEwplbVNpZ24gUEtJMSUwIwYDVQQKExxlTXVkaHJhIFRlY2hub2xvZ2llcyBM",
    "aW1pdGVkMRwwGgYDVQQDExNlbVNpZ24gUm9vdCBDQSAtIEcxMIIBIjANBgkqhkiG9w0BAQEFAAOCAQ8AMIIBCgKCAQEA",
    "k0u76WaK7p1b1TST0Bsew+eeuGQzf2N4aLTNLnF115sgxk0pvLZoYIr3IZpWNVrzdr3YzZr/k1ZLpVkGoZM0Kd0WNHVO",
    "8oG0x5ZOrRkVUkr+PHB1cM2vK6sVmjM8qrOLqs1D/fXqcP/tzxE7lM5OMhbTI0Aqd7OvPAEsbO2ZLIvZTmmYsvePQbAy",
    "eGHWDV/D+qJAkh1cF+ZwPjXnorfCYuKrpDhMtTk1b+oDafo6VGiFbdbyL0NVHpENDtjVaqSW0RM8LHhQ6DqS0hdW5TUa",
    "QBw+jSztOd9C4INBdN+jzcKGYEho42kLVACL5HZpIQ15TjQIXhTCzLG3rdd8cIrHhQIDAQAB"],
  ["MGgxCzAJBgNVBAYTAlVTMSUwIwYDVQQKExxTdGFyZmllbGQgVGVjaG5vbG9naWVzLCBJbmMuMTIwMAYDVQQLEylTdGFy",
    "ZmllbGQgQ2xhc3MgMiBDZXJ0aWZpY2F0aW9uIEF1dGhvcml0eTCCASAwDQYJKoZIhvcNAQEBBQADggENADCCAQgCggEB",
    "ALcyyP7pcaYEha0MEWTfzk3vyAMYhz+hq/s8pp/ww6Ha1NhuK1OQ+ySkPoTwnuhf7OUnRPUopj973uAq8MivUy+eygUB",
    "kx6PZhw5p036WrZzBCVm63d/51nGSpklFFTrJsfzfxnVMHCPr7BGKv+t6ynt15+qBIej1PmJpTRf20ORgjbZZjyxuLmC",
    "/Zw6PhDIO+8GZWZ6mxkYPf9xUTwwLl++PXdzsl0GbMMjVporhSaSHKcCs+Q/Da8IeYK4Nj3qnNM1s7xpyvXMnej9ZI0X",
    "gDNuXkpdmckeh7SdGsDVbhM1I17fm18979b3dsLqPrt4DRxCZ2sE2PjW2m+L8kSgAasCAQM="],
  ["MGkxCzAJBgNVBAYTAktSMSYwJAYDVQQKDB1OQVZFUiBCVVNJTkVTUyBQTEFURk9STSBDb3JwLjEyMDAGA1UEAwwpTkFW",
    "RVIgR2xvYmFsIFJvb3QgQ2VydGlmaWNhdGlvbiBBdXRob3JpdHkwggIiMA0GCSqGSIb3DQEBAQUAA4ICDwAwggIKAoIC",
    "AQC21PGTXLVAiQqrDZBbUGOukJR0F0Vy1ntlWilLp1agS7gvQnXp2XskWjFlqxcX0TM62RHcQDaH38dq6SZeWYp34+hI",
    "nDEW+j6RscrJo+KfziFTowI2MMtSAuXaMl3Dxeb57hHHi8lEHoSTGEq0n+USZGnQJoViAbbJAh2+g1G7XNr4rRVqmfeS",
    "VPc0W+m/6imBEtRTkZazkVrd/pBzKPswRrXKCAfHcXLJZtM0l/aM9BhK4dA9WkW2aacp+yPOiNgSnABIqKYPszuSjXEO",
    "dMWLyEz59JuOuDxp7W87UC9Y7cSw0BwbagzivESq2M0UXZR4Yb8ObtoqvC8MC3GmsxY/nOb5zJ9TNeIDoKAYv7vxvvTW",
    "jIcNQvcGufFt7QSUqP620wbGQGHfnZ3zVHbOUzoBppJB7ASjjw2i1QnK1sua8e9DXcCrpUHPXFNwcMmIpi3Ua2FzUCaG",
    "YQ5fG8Ir4ozVu53BA0K6lNpfqbDKzE0K70dpAy8i+/Eozr9dUGWokG2zdLAIx6yo0es+nPxdGoMuK8u180SdOqcXYZai",
    "cdNwlhVNt0xz7hlcxVs+Qf6sdWA7G2POAN3aCJBitOUt7kinaxeZVL6HSuOpXgRM6xBtVNbv8ejyYhbLgGvtPe31HzCl",
    "rkvJE+2KAQHJuFFYwGY6sWZLxNUxAmLpdIQM201GLQIDAQAB"],
  ["MGsxCzAJBgNVBAYTAklOMRMwEQYDVQQLEwplbVNpZ24gUEtJMSUwIwYDVQQKExxlTXVkaHJhIFRlY2hub2xvZ2llcyBM",
    "aW1pdGVkMSAwHgYDVQQDExdlbVNpZ24gRUNDIFJvb3QgQ0EgLSBHMzB2MBAGByqGSM49AgEGBSuBBAAiA2IABCOlDLgt",
    "EvUo87Gy3eICEoCeOV9JTZ/JJTRZdOy7BhznwHKv6K4v4UFUhxSoSrLofILmW2q13LN1zosG0IYjv0bVjg8/BPTXHJJ+",
    "9qVjwvVfji5PoRgZAisyCoJkfRaT0Q=="],
  ["MGsxCzAJBgNVBAYTAklUMQ4wDAYDVQQHDAVNaWxhbjEjMCEGA1UECgwaQWN0YWxpcyBTLnAuQS4vMDMzNTg1MjA5Njcx",
    "JzAlBgNVBAMMHkFjdGFsaXMgQXV0aGVudGljYXRpb24gUm9vdCBDQTCCAiIwDQYJKoZIhvcNAQEBBQADggIPADCCAgoC",
    "ggIBAKfGxKUppCzv5RjFsFCjb1E7nwpaycJIOArCHKAYf5G1h7lAP90daB8Ig9UtHoig+I9Wj22ZApKQFtVfCGyJ1+Gs",
    "vCDCseCDUYppTQCWWm8vwER+ow7kkc1Y7tz7xx5FR90nuQgBn6YhHfVBLS9M/Sit4IqtIrRWZY6GVI+TQyneOUZ4ozAj",
    "us3wfRNXwF3Sg2tITMSrn4BaWzq9yaciP4AnM1sOt4oMXQc3CMts0npHIkQ1xczMLo7dKu23fWYNX2FRIlUb40bj4z3Q",
    "NWKa268UyFuhzIkb4TAm/KCbH4GnRx8E66M5kgafmdO/0+pPUJwZ/paHHjxl9qMYJIOGEOdUPqg6diRPgSHF4w8C+JOU",
    "RyC7/tQO02i53cR6hILjU1R53duc0vIHmy62vD7thW3vJRHylxpCYfdKl+iLsRAH+mWBsqI5z/c8/xj7xvFai1niAqx7",
    "ktBOFE9ZRfYMXihfsOg/Rc/Pr5tv+4TTd1qVb6yUhJ7uvMBKj0qT+EQh4jFFYVBOENjjNXxMGbTeBb+jBp/Itc3kH9cX",
    "Bg16lXRVDWga/BAbYmSdbeCVoMOUB1cNFOa9Bfu4n+bfi+LG536W9lPFgDRQKFjwElBxFzC65nhjvPSyrZsrsv7hOYxe",
    "ugsglN57g7j/41aNtxHpO4zyscFdnaQLTCvZshj1tZ9LAgMBAAE="],
  ["MGwxCzAJBgNVBAYTAkdSMTcwNQYDVQQKDC5IZWxsZW5pYyBBY2FkZW1pYyBhbmQgUmVzZWFyY2ggSW5zdGl0dXRpb25z",
    "IENBMSQwIgYDVQQDDBtIQVJJQ0EgVExTIEVDQyBSb290IENBIDIwMjEwdjAQBgcqhkjOPQIBBgUrgQQAIgNiAAQ4CP6x",
    "oJbSeqyvSTrQwODDOyiq8XJtZQBHiIT8miZrqku6bAQKiF4X8lWH/DCwNOI0WFcahFPpMNmp8pZ0w1EfWEkxzJhOYBGH",
    "ddNylJBPmxAlKqh4Lb6QQViQFXKnobc="],
  ["MGwxCzAJBgNVBAYTAkdSMTcwNQYDVQQKDC5IZWxsZW5pYyBBY2FkZW1pYyBhbmQgUmVzZWFyY2ggSW5zdGl0dXRpb25z",
    "IENBMSQwIgYDVQQDDBtIQVJJQ0EgVExTIFJTQSBSb290IENBIDIwMjEwggIiMA0GCSqGSIb3DQEBAQUAA4ICDwAwggIK",
    "AoICAQCLwuevZZsFZ5bJDSS50A5k/M7iJBgshH93UcsEETa4Xu1pcaee5CUJl2fBR8LPkRY2Yj04BOFRgv+s0rRp3S7s",
    "EaNF7mtrO0y/jI2kHp0Ruek4+XoODJjiIx3RTmPU57hBRPtrr2vaH9PFkYhbpImS0YHmjDlYoNZpQ6mtmFJYbtsK+2vP",
    "aPrjpF46RXOYB+pfAnLeDKWzn66pHbcds/yKWeducmWt9TCUIwfzghZLNZicU7svyuRa2ceNHfyYmfsspIJr8Cofjgtf",
    "cVxcrkJ7KYmBywOjmcqIngtACUEz2+ZYev2umXDAWg/WE4ZxL3Zp/JDd2y1u0fKb9Rprnm8VjHrwSyigIjiAJGw2pDvy",
    "MJHzeBPPwT81q/EdESO1QyKeAZK3GALlEdGC2xUAzGE3wSp8muHQurNQRu6CrJ0x+Psj4gMASHCjCSZ5FVNg8zhcrTjq",
    "gQBjFLkzXt0L26BFBxozCfhNtKcCpmn0wlkFiGWFVq5Ly+DePH0tGsjp+x+jYUrWKhOtd0waGJuRD1jYBlTFl/iqPyCK",
    "poWmd/am/Bzi7m6UMyqDUIQK5U+G+FBFeACB61to4yaNzHtcUfQULEC+GmAdenJhHR9jLYiqzqJFkAj8a76zUCpa/ahI",
    "GEbWkECSkAqEXmgx+OvtDdMdxn2ZGFVWJ2UujUXFJOzO4wIDAQAB"],
  ["MGwxCzAJBgNVBAYTAlVTMRUwEwYDVQQKEwxEaWdpQ2VydCBJbmMxGTAXBgNVBAsTEHd3dy5kaWdpY2VydC5jb20xKzAp",
    "BgNVBAMTIkRpZ2lDZXJ0IEhpZ2ggQXNzdXJhbmNlIEVWIFJvb3QgQ0EwggEiMA0GCSqGSIb3DQEBAQUAA4IBDwAwggEK",
    "AoIBAQDGzOVz5vvUu+UtLTKm3+WBP8nNJUm2cSrD1ZQ0Z6IKHLBfaaZAscS3so/QmKSpQVk609yU1jzbdDikSsxNJYL3",
    "SqVTEjju80ltcZF+Y7arpl/DpIT4T2JRvvjF7Ns4kuMG5QiRDMQoQVX7y1qJFX5x6DW/TXIJPb46OFBbdzEbjbPHJEWa",
    "p6xtABRaBLe6E+tRCphBQSJOZWGHgUFQpnlcid4ZSlfVLuZdHFMsfpjNGgYWpGhz0DQEE1yhcdNafFXbXmThN4cwVgTl",
    "EbQpgBLxeTmIogIRfCdmt4i3ePLKCqg4qwpkwr9mXZWEwaElHoddGlALIBLMQbtuC1E4uEvLAgMBAAE="],
  ["MG0xCzAJBgNVBAYTAkNIMRAwDgYDVQQKEwdXSVNlS2V5MSIwIAYDVQQLExlPSVNURSBGb3VuZGF0aW9uIEVuZG9yc2Vk",
    "MSgwJgYDVQQDEx9PSVNURSBXSVNlS2V5IEdsb2JhbCBSb290IEdCIENBMIIBIjANBgkqhkiG9w0BAQEFAAOCAQ8AMIIB",
    "CgKCAQEA2Be3HEokKtaXscriHvt9OO+Y9bI5mE4nuBFde9IllIiCFSZqGzG7qFshISvYD06fWvGxWuR51jIjK+FTzJlF",
    "XHtPrby/h0oLS5daqPZI7H17Dc0hBt+eFf1Biki3IPShehtX1F1Q/7pn2COZH8g/497/b1t3sWtuuMlk9+HKQUYOKXHQ",
    "uSP8yYFfTvdv37+ErXNku7dCjmn21HYdfp2nuFeKUWdy19SouJVUQHMD9ur06/4oQnc/nSMbsrY9gBQHTC5P99UKFg29",
    "ZkM3fiNDecNAhvVMKdqOmq0NpQSHiB6F4+lT1ZvIiwNjeOvgGUpuuy9rM2RYk61pv48b74JIxwIDAQAB"],
  ["MG0xCzAJBgNVBAYTAkNIMRAwDgYDVQQKEwdXSVNlS2V5MSIwIAYDVQQLExlPSVNURSBGb3VuZGF0aW9uIEVuZG9yc2Vk",
    "MSgwJgYDVQQDEx9PSVNURSBXSVNlS2V5IEdsb2JhbCBSb290IEdDIENBMHYwEAYHKoZIzj0CAQYFK4EEACIDYgAETOlQ",
    "wMYPchi82PG6s4nieUqjFqdrVCTbUf/q9Akkwwsin8tqJ4KBDdLArzHkdIJuyiXZjHWd8dvQmqJLIX4Wp2OQ0jnUsYd4",
    "XxiWD1AbNTcPasbc2RNNpI6QN+a9WzGR"],
  ["MG8xCzAJBgNVBAYTAkhLMRIwEAYDVQQIEwlIb25nIEtvbmcxEjAQBgNVBAcTCUhvbmcgS29uZzEWMBQGA1UEChMNSG9u",
    "Z2tvbmcgUG9zdDEgMB4GA1UEAxMXSG9uZ2tvbmcgUG9zdCBSb290IENBIDMwggIiMA0GCSqGSIb3DQEBAQUAA4ICDwAw",
    "ggIKAoICAQCziNfqzg8gTr7m1gNt7ln8wlffKWihgw4+aMdoWJwcYEuJQwy51BWy7sFOdem1p+/l6TWZ5Mwc50tfjTMw",
    "IDNT2aa71T4Tjukfh0mtUC1Qyhi+AViiE3CWu4mIVoBc+L0sPOFMV4i707mV78vH9toxdCim5lSJ9UExyuUmGs2C4HDa",
    "Oym71QP1mbpV9WTRYA6ziUm4ii8F0oRFKHyPaFASePwLtVPLwpgchKOesL4jpNrcyCse2m5FHomY2vkALgbpDDtw1VAl",
    "iJnLzXNg99X/NWfFobxeq81KuEXryGgeDQ0URhLj0mRiikKYvLTGCAj4/ahMZJx2Ab0vqWwzD9g/KLg8aQFChn5pwckG",
    "yuV6RmXpwtZQQS4/t+TtbNe/JgERohYpSms0BpDsE9K2+2p20jzt8NYt3eEV7KObLyzJPivkaTv/ciWxNoZbx39ri1Ub",
    "SsUgYT2uy1DhCDq+sI9jQVMwCFk8mB13umOResoQUGC/8Ne8lYePl8X+l2oBlKN8W4UdKjk60FSh0Tlxnf0h+bV78OLg",
    "Ao9uliQlLKAeLKjEiafv7ZkGL7YKTE/bosw3Gq9HhS2KX8Q0NEwA/RiTZxPRN+ZItIsGxVd7GYYKecsAyVKvQv83j+Gj",
    "Hno9UKtjBucVtT+2RTeUN7F+8kjDf8V1/peNRY8apxpyKBpADwIDAQAB"],
  ["MHExCzAJBgNVBAYTAkhVMREwDwYDVQQHDAhCdWRhcGVzdDEWMBQGA1UECgwNTWljcm9zZWMgTHRkLjEXMBUGA1UEYQwO",
    "VkFUSFUtMjM1ODQ0OTcxHjAcBgNVBAMMFWUtU3ppZ25vIFJvb3QgQ0EgMjAxNzBZMBMGByqGSM49AgEGCCqGSM49AwEH",
    "A0IABJbcPYrYsHtvxie+RJCxs1YVe45DJH0ahFnuY2iyxl6H0BVIHqiQrb1TotreOpCmYF9oMrWGQd+HWyx7xf58eto="],
  ["MHQxCzAJBgNVBAYTAlBMMSEwHwYDVQQKExhBc3NlY28gRGF0YSBTeXN0ZW1zIFMuQS4xJzAlBgNVBAsTHkNlcnR1bSBD",
    "ZXJ0aWZpY2F0aW9uIEF1dGhvcml0eTEZMBcGA1UEAxMQQ2VydHVtIEVDLTM4NCBDQTB2MBAGByqGSM49AgEGBSuBBAAi",
    "A2IABMQojqsYW2q+bmQ3Y+TN7Ks698yhuA6CSdeGKZ+hlPLjYHiYgXgGTfLsmg5XYIOftOYXLxqzXQJbiSM8whEFKqeI",
    "ExjzUITXvTQsJ4lV/85M59+mHyjE8FTDuXy3U63rwg=="],
  ["MHgxCzAJBgNVBAYTAkVTMREwDwYDVQQKDAhGTk1ULVJDTTEOMAwGA1UECwwFQ2VyZXMxGDAWBgNVBGEMD1ZBVEVTLVEy",
    "ODI2MDA0SjEsMCoGA1UEAwwjQUMgUkFJWiBGTk1ULVJDTSBTRVJWSURPUkVTIFNFR1VST1MwdjAQBgcqhkjOPQIBBgUr",
    "gQQAIgNiAAT2uldTyMqr3zZKUiHkl9KDZ57wZVHQXofHR7FZ8ldHmwACk0QXadtCx7GyOhgOtF2Ms2ZdoTT5NixJ2/NG",
    "/LNEaUQTZv3Xxf2vNk3OA00Hcc+vagXSokNaClJvAQNOjos="],
  ["MHoxCzAJBgNVBAYTAlBMMSEwHwYDVQQKExhBc3NlY28gRGF0YSBTeXN0ZW1zIFMuQS4xJzAlBgNVBAsTHkNlcnR1bSBD",
    "ZXJ0aWZpY2F0aW9uIEF1dGhvcml0eTEfMB0GA1UEAxMWQ2VydHVtIFRydXN0ZWQgUm9vdCBDQTCCAiIwDQYJKoZIhvcN",
    "AQEBBQADggIPADCCAgoCggIBANEtjru3NuptN5GfTpOnBeQpAyXOHIL3fJmfQQbN7aO6wNsJLMF83yl+S2Uvk6fUAWsD",
    "KBij2J0FwSrYRfGR3t870IACjM84D+qnXHgRpMHIhVwl09Oy5yXPEVSXqzXAHnYc7wBTnzncFKUsIiWzcnL8jbPlPgge",
    "FCo3C4g8yrD0yMKhrrzBvilnVeL8rVlc/r1XLLCQjcLtN7Z8mYi11QOaPRUNPTqoqEXwlU4lWR3NmGm708wyyY3vgf6t",
    "fYm7umATymWVZ6DzGfYDVtRq0yfioa2D8EoSInccBXPiGXFCwOx1RpqQWOBqjiulRjAEjhmyF+O+qbp/VvEkA9eyISh2",
    "DjYwTHnVQZqaqLg1ugw68kQbIIj3xSXXPcbjPkPdh/7E6vVTPkxl/ztKy3haaxdfDcfDT06aKqLtV00i4kaaPw+RNCR9",
    "VeOMlTfTGvAJKyzSyY20DQCrZyko2AH1GQS2Hb52/nJcxIXK0oBB3wWoo9WEkE8L8+A/mxnSN4k/8ntSHIz24fc8B5eM",
    "DqJZgQyykD3T41lG7Q+pp96Aa1qqB7YZy7xX85chegyxK3Q+69qnZy1MxJieNgl2Zmb8Gj/qSFQcvjC9gFC/fLXOAPYM",
    "YdnnJAPg4wGBDr3YhTSIvbI2qHtcCOVEgIxv+C/VIcodHND7xLWH0TpOx3a1NUi1AgMBAAE="],
  ["MHsxCzAJBgNVBAYTAkdCMRswGQYDVQQIDBJHcmVhdGVyIE1hbmNoZXN0ZXIxEDAOBgNVBAcMB1NhbGZvcmQxGjAYBgNV",
    "BAoMEUNvbW9kbyBDQSBMaW1pdGVkMSEwHwYDVQQDDBhBQUEgQ2VydGlmaWNhdGUgU2VydmljZXMwggEiMA0GCSqGSIb3",
    "DQEBAQUAA4IBDwAwggEKAoIBAQC+QJ30buHqdoccTUVEjr5GyIMGncEq/hgfjuQC+vOrXVCKFjELmgbQxXAizUktVGPM",
    "tm5oRgtT6stMJMC8ck7q8RWu9FSaEgrDerIzYOLaiVXzIljz3tzP74OGooyUT59o8piQRoQnx3a/48w1LIteB2RlgsBI",
    "sKiR+WGfdiBQqJHHZrXreGIDVvCKGhPqMaMeoJn9OPb2JzJYbwf1a7j7FCuvt6rM1mNfc4zaBZmoOKjLF3g2UazpnvR4",
    "Oo3PD9lC4pgMqy+fDgHe75+ZSfEt36x0TRuYtUfF5SnR+ZAYx2KcvoPHJns+iiXHwN2d5jVoECCdj9je0sOEnA1e6C/J",
    "AgMBAAE="],
  ["MHwxCzAJBgNVBAYTAlVTMQ4wDAYDVQQIDAVUZXhhczEQMA4GA1UEBwwHSG91c3RvbjEYMBYGA1UECgwPU1NMIENvcnBv",
    "cmF0aW9uMTEwLwYDVQQDDChTU0wuY29tIFJvb3QgQ2VydGlmaWNhdGlvbiBBdXRob3JpdHkgRUNDMHYwEAYHKoZIzj0C",
    "AQYFK4EEACIDYgAERW6pUMSmIzaeXyiNF8uWImQ/3HqOHcwIs6JxJLqOSbkEG0eWWKstlcjtngg1yCfriYxTWOtiiv7w",
    "Ww9rMVJjQTuJzezsto0Z0zQH3LvGBn/CRZXsy3+oI+AJ6YH680fT"],
  ["MHwxCzAJBgNVBAYTAlVTMQ4wDAYDVQQIDAVUZXhhczEQMA4GA1UEBwwHSG91c3RvbjEYMBYGA1UECgwPU1NMIENvcnBv",
    "cmF0aW9uMTEwLwYDVQQDDChTU0wuY29tIFJvb3QgQ2VydGlmaWNhdGlvbiBBdXRob3JpdHkgUlNBMIICIjANBgkqhkiG",
    "9w0BAQEFAAOCAg8AMIICCgKCAgEA+Q/doyt9y9Aq/uxnhabnLhu6d+Hj9a+k7PpKXZHEV0drGHdrdvL9k+Q9D8IWngtm",
    "w1aUnheDhc5W7/IW/QBi9SIJVOhlF05BueBPRpeqG8i4bmJeabFf2yoCfvxsyvNB2O3Q6Pw/YUjtsAMUHRAOSxngu07s",
    "hmX/NvNeZwILnYZVYf16OO3+4hkAt2+hUGJ1dDyg+sglkrRueiLH+B6h47LdkTGrKx0E/6VKBDfphaQzK/3i1lU0fBmk",
    "SmjHsqjTt8qhk4jrwZe8jPkd2SKEJHTHBD1qqSmTzOu4W+H+XyWqNFjIwSNUnRuYEcM4nH49hmylD0CGfAL0XAJPKMuu",
    "cZ8POsgz/hElNer8usVgPdl8GNWyqdN1eANyIso6wx/vLOUuqfqeLLZRRv2vA9bqYGjqhRY2a4XpHsCz3cQk3IAqgUFt",
    "lD7I4MmBQQCeXr9/xQiYohgsQkCz+W84J0tOgPQ9gUfgiHzqHM61dVxRLhwrfxpyKOcAtdF0xtfkn60Hk7ZTNTX8N+TD",
    "9l0WviFz3pIK+KBjaryWkmo++LxlVZve9Q2JJgT8JRqmJWnLwm3KfOJZX5es6+8uyLzXG1k8K8zyGciTaydjGc/86Sb4",
    "ynGbf5P+NGeETpnr/LN4CTNwumamdu0bc+sapQ3EIhMglFYKTixsTrH9z5wJuqIz7YcCAwEAAQ=="],
  ["MH4xCzAJBgNVBAYTAlBMMSIwIAYDVQQKExlVbml6ZXRvIFRlY2hub2xvZ2llcyBTLkEuMScwJQYDVQQLEx5DZXJ0dW0g",
    "Q2VydGlmaWNhdGlvbiBBdXRob3JpdHkxIjAgBgNVBAMTGUNlcnR1bSBUcnVzdGVkIE5ldHdvcmsgQ0EwggEiMA0GCSqG",
    "SIb3DQEBAQUAA4IBDwAwggEKAoIBAQDj+32jcrrC8MkUh/VrAU7hbkAHum0nXX/3Wy2zWsdRX6ukMqZhh7ZuD4bSMAKX",
    "+NdpV6EYOV1qZHnGAVmsPDFKOHzSBNJLKOggXzsHosxNc9vzrk/HVtVap5aJ+vOraNQjhlknzwknvKxucoMcMHLf4KLp",
    "0uF0dRm9Kp57FVQEG9dDOa1VKMXiGrv0wOSuOEkzzHaFnzlF0qSe8hKMUfh85C1/9axf6xafsS3RusyRQndMJcmQOG/b",
    "8Mz7jh6XWT7VYE7mBSjtSXkTS7pI2y/5ctM5yv4f2DRy9bRAzzEBw+zeES0XXR+4UNFeGadp3gczKMpQlfmnVMtUhlBF",
    "qflJAgMBAAE="],
  ["MH8xCzAJBgNVBAYTAlVTMQ4wDAYDVQQIDAVUZXhhczEQMA4GA1UEBwwHSG91c3RvbjEYMBYGA1UECgwPU1NMIENvcnBv",
    "cmF0aW9uMTQwMgYDVQQDDCtTU0wuY29tIEVWIFJvb3QgQ2VydGlmaWNhdGlvbiBBdXRob3JpdHkgRUNDMHYwEAYHKoZI",
    "zj0CAQYFK4EEACIDYgAEqhJHkJgb++/DQAeDIE7xMIKiBtHykoZh8vYhaMoAxMfqQwBUhtz9H98AuEFiXNxwFjLeH5nU",
    "zMUHyAgfYRYHUT19XAdT4zU4jN/Nn9kuDUq2GS5acFoG7b7wobDK0Akp"],
  ["MIGAMQswCQYDVQQGEwJQTDEiMCAGA1UEChMZVW5pemV0byBUZWNobm9sb2dpZXMgUy5BLjEnMCUGA1UECxMeQ2VydHVt",
    "IENlcnRpZmljYXRpb24gQXV0aG9yaXR5MSQwIgYDVQQDExtDZXJ0dW0gVHJ1c3RlZCBOZXR3b3JrIENBIDIwggIiMA0G",
    "CSqGSIb3DQEBAQUAA4ICDwAwggIKAoICAQC9+Xj45tWADGSdhhuWZGc/IjoedQF97/tcZ4zJzFxrqZHmuULlIEub2pt7",
    "uZld2ZuAS9eEQCsn0+i6MLs+CRqnSZXvK0AkwpfHp+6bJe+oCgCXhVqqndwpyeI1B+twTUrWwbNWuKFBOJvR+zF/j+Bf",
    "4bE/D44WSWDXBo0Y+aomEKsq09DRZ40bRr5HMNUuctHFY9rnY3lEfktjJImGLjQ/KUxSiyqnwOKRKIm5wFv5HdnnJ63/",
    "mgKXwcZQkpsCLL2puTRZCr+ESv/f/rOf69me4Jgj7KZrdxYq28ytOxykh9xGc14ZYmhFV+SQgkK7QtbwYeDBoz1mo130",
    "GO6IyY0XRSmZMnUCMe4pJshrAua1YkV/NxVaI2iJ1D7eTiew8EAMvE0Xy02isx7QBlrd9pPPV3WZ9fqGGmd4s7+W/jTc",
    "vedSVuWz5XV710GRBdxdaeOVDUO5/IOWOZV7bIBaTxNyxtd9KXpEulKkKtVBRgkg/iKgtlswjbyJDNXXcPiHUv3a76xR",
    "LgezTv7QCdpw75j6VuZt27VXS9zlLCUVyJ4ueE742pyehizKV/Ma5ciSixqClnrDvFASadgOWkaLOusm+iPJtrCBvkIA",
    "pPjW/jAux9JG9uWOdf3yzLnQh1vMBhBgu4M1t15n3kfsmUjxpKEV/q2MYo45VU85FrmxY53/twIDAQAB"],
  ["MIGBMQswCQYDVQQGEwJHQjEbMBkGA1UECBMSR3JlYXRlciBNYW5jaGVzdGVyMRAwDgYDVQQHEwdTYWxmb3JkMRowGAYD",
    "VQQKExFDT01PRE8gQ0EgTGltaXRlZDEnMCUGA1UEAxMeQ09NT0RPIENlcnRpZmljYXRpb24gQXV0aG9yaXR5MIIBIjAN",
    "BgkqhkiG9w0BAQEFAAOCAQ8AMIIBCgKCAQEA0ECLi3LjkRv3UcEbVASY06m/weaKXTuH+7uIzg3jLz8GlvCiKVCZrts7",
    "oVewdFFxze1CkU1B/qnI2GqGd0S7WWaXUF601CxwRM/aN5VCaTwwxHGzUvAhTaHYujl8HJ6jJJ3ygxaYqhZ8Q5sVW7eu",
    "NJH+1GImGEaaP+vB+fGQV+useg2L23IwambV4EajcNxo2f8ESIl33rXp+2dtQem8Ob0y2WIC8bGoPW43nOIv4tOiJovG",
    "uFVDiOEjPqXSJDlqR6sA1KGzqSX+DT+nHbrTUcELpNqsOO9VUCQFZUaTNE8tja3G1CEZ0o7KBWFxB3NH5YoZEr0ETc5O",
    "nKVIrLsm9wIDAQAB"],
  ["MIGCMQswCQYDVQQGEwJERTErMCkGA1UECgwiVC1TeXN0ZW1zIEVudGVycHJpc2UgU2VydmljZXMgR21iSDEfMB0GA1UE",
    "CwwWVC1TeXN0ZW1zIFRydXN0IENlbnRlcjElMCMGA1UEAwwcVC1UZWxlU2VjIEdsb2JhbFJvb3QgQ2xhc3MgMjCCASIw",
    "DQYJKoZIhvcNAQEBBQADggEPADCCAQoCggEBAKpf2htf6HOR5dpc9KLmR+XzaFVgBR0CpLObWfMeiq80rfwNwtlIGe5p",
    "j8kg/CGqBxntsFysZcdf7QJ8e3wtG9a6uYDCGIIWhPpmsAjGVCOB5M25ST/2T243SCg4D8W+52hw/TmXTdLHmJFQqsRE",
    "syN9OUfpUmLWEpNetzGWQgX7dqceo/XC/Ol6xWypcU/qy3i8YK/H3vTZy75+M6VulIPwNPohq+qOcqA/pN4wW++GTWqV",
    "W0NEqBAVHOUBV8WY8eYGKJGqIMW3UyZRQ7ILEZVY4cAPdtnAjXyB83Jwnm/+Go7ZXzXGsm80fL5IT+JaOdfYnXien4Y+",
    "A14Zi0Si1ccCAwEAAQ=="],
  ["MIGCMQswCQYDVQQGEwJERTErMCkGA1UECgwiVC1TeXN0ZW1zIEVudGVycHJpc2UgU2VydmljZXMgR21iSDEfMB0GA1UE",
    "CwwWVC1TeXN0ZW1zIFRydXN0IENlbnRlcjElMCMGA1UEAwwcVC1UZWxlU2VjIEdsb2JhbFJvb3QgQ2xhc3MgMzCCASIw",
    "DQYJKoZIhvcNAQEBBQADggEPADCCAQoCggEBAL11k/BiIm8kruB6dqx9vdkk1bi3/M3wQuDreIhWXpuaVB1NDIr2089w",
    "9FK12JME40aGcUFKK/AqLFUD1kjD4Dk47fJcPD9EvJM9YatOzQ2+8CAnWA5EfwQah6XXlhQ2kNBJe6F1+xprc7H4zqkJ",
    "LPJT1cMURLiGpfaLKznaozNU2fpyGvciFRyIkWt/ZuXDaoCwJPPfhkWI/Rl/dYcfH7EbCnMkW7ll4CxUyGDTZhc/4cxU",
    "M3ORAjqmf3t2OaIflrY4rrXIk3Qdnrm05WCdL1bR4OteW0wScAxsRCCrEdj0GfbSnFI35/q2wjE7StQUma3HGvVdX/oH",
    "uHwNH9aDHrMCAwEAAQ=="],
  ["MIGCMQswCQYDVQQGEwJIVTERMA8GA1UEBwwIQnVkYXBlc3QxFjAUBgNVBAoMDU1pY3Jvc2VjIEx0ZC4xJzAlBgNVBAMM",
    "Hk1pY3Jvc2VjIGUtU3ppZ25vIFJvb3QgQ0EgMjAwOTEfMB0GCSqGSIb3DQEJARYQaW5mb0BlLXN6aWduby5odTCCASIw",
    "DQYJKoZIhvcNAQEBBQADggEPADCCAQoCggEBAOn4j/NjrdqG2KfgQvvPkd6mJviZpWNwrZuuyjNAfW2WbqEORO7hE52U",
    "QlKavXWFdCyoDh2Tthi3jCyoz/tccbna7P7ofo/kLx2yqHWH2Leh5TvPmUpG0IMZfcChEhyVbUr02MelTTMuhTlAdX4U",
    "fIASmFDHQWe4oIBhVKZsTh/gnQ4H6cm6M+f+wFUoLAKApxn1ntxVUwOXewdI/5n7N4okxFnMUBBjjqqpGrCEGob5X7ux",
    "UG6k0QrM1XF+H6cbfPVTbiJfyyvm1HxdrtbCxkzlBQHZ7Vf8wSN5/PrIJIOV87VqUQHQd9bpEqH5GoP7ghu5sJf0dgYz",
    "Q0mg/wu1+rUCAwEAAQ=="],
  ["MIGCMQswCQYDVQQGEwJVUzEOMAwGA1UECAwFVGV4YXMxEDAOBgNVBAcMB0hvdXN0b24xGDAWBgNVBAoMD1NTTCBDb3Jw",
    "b3JhdGlvbjE3MDUGA1UEAwwuU1NMLmNvbSBFViBSb290IENlcnRpZmljYXRpb24gQXV0aG9yaXR5IFJTQSBSMjCCAiIw",
    "DQYJKoZIhvcNAQEBBQADggIPADCCAgoCggIBAI82ZUDh1k3A17TpRtpr6jNHzUz5fX2+vS098Nt44Yal2boJV2jtVz6g",
    "0AhBg+coQSQf43IV0AEa+15wI7LLnznjz8VOxpJtJsZ7u7PaJ50KhumBNwX+8HFx7MMc6WOiFxSd7xtn04VVAgLWScnM",
    "WuGx928yn8nUO4hBqJy9y6vbbXsJH6JMcpDaKwj8zzxUzmcPqM9dlhkLxONy663RfR0n75LrEL9b6zuvz4DdwdKWBFt6",
    "fqSpPDh2pGKOoDle6nfPXQBZj2YsPgeiowUmEWmX6oW3D5YLS8hA4VC6LorL9w+aIud/mjcTzfJNE2sh0cDMIvKhRvZE",
    "aZzKYTUHAG/WYQgR6rq49umzYOVNueyfFGbJV1jbzYdp+IqGEgNHv2YTdqx3fTQkhYPN16qckBqfISx/eLdkuNjopvR4",
    "s1XLhNIyxHiuo49h3c4IU63siPwV5JoN5p8ad85Mj7gUFT1inIY4BgBmEuRZdlpTwAKYohAraER7jnnOM0p2qluBFhu1",
    "itjQAHteYrQJ1oZjDqYFlUm6KIuIk7I0HNikVW63HNDemVU7I/Qi4PkpZibsIFB320oLj77lAmBwQV7UrlA5IhQmy7I7",
    "c3RVRwd5gTmoMBNE5QSKrpYTJUIPuVPEm/zN5BzePPqr1gZKH2emmDAc3Szb3BiVV2bG/1yLVvV3AgMBAAE="],
  ["MIGCMQswCQYDVQQGEwJVUzEeMBwGA1UECxMVd3d3LnhyYW1wc2VjdXJpdHkuY29tMSQwIgYDVQQKExtYUmFtcCBTZWN1",
    "cml0eSBTZXJ2aWNlcyBJbmMxLTArBgNVBAMTJFhSYW1wIEdsb2JhbCBDZXJ0aWZpY2F0aW9uIEF1dGhvcml0eTCCASIw",
    "DQYJKoZIhvcNAQEBBQADggEPADCCAQoCggEBAJgkHr0VtLrfx4ylJ7Y4C2nztk6oLC4hHVxE3yFdfiN0/l5+tEq3pq0f",
    "ruAGFuKbW9lndGtdgI8pnYYb2ZwNmG12EChY5GWwf0qYeZ/gwzF+gCu1jMBAOxGG0MuihjZgpNUwgm3ZbtAPEgQzl19P",
    "YVrw5PmRq+cdO7zoz/RrLTR84khhHI7zYUTMb6BKqZSwTdrnqTR6cjioQcw8lBF968imjLeGy8ozO9k9N4v7ej6GLOdz",
    "1wpXrGSbGev0DwQIiqwDFxlk9FolIo00LLL2aB0SbdOKHhTaxI+m4iOF1XoNvWrg6ezsF7tCG2eqJe1FgyH8wcl81WI+",
    "+vLFLdP91GUCAwEAAQ=="],
  ["MIGDMQswCQYDVQQGEwJVUzEQMA4GA1UECBMHQXJpem9uYTETMBEGA1UEBxMKU2NvdHRzZGFsZTEaMBgGA1UEChMRR29E",
    "YWRkeS5jb20sIEluYy4xMTAvBgNVBAMTKEdvIERhZGR5IFJvb3QgQ2VydGlmaWNhdGUgQXV0aG9yaXR5IC0gRzIwggEi",
    "MA0GCSqGSIb3DQEBAQUAA4IBDwAwggEKAoIBAQC/cWII8fpZNPcbyRij94BJWOkigxOmxSBDATuE8eaFSZ8n6vaEG06g",
    "tNtwmMcyAbEFPgdO7vT6Ty9ZMCLnqxlWa+KAB/zzFnWAOVF75fk1tnROqY2CE+S2P6kDg/qivooVan/eC8O2GRQFyurD",
    "qASUO0Z8Mg3zAGYiyI1pbTaMERi307IcYLQ4+gKMztPdRgfeCj7rXXzIfPuwK1OkkmJpUSUFYRpEgYwsqUOWI9+sOoGa",
    "DinFHKnpXR62np4wCjnO8YiA+0tdzDLshWJDJTQCVicBkbQ7cCo/brHonIgBfZ/U+dtTbWCdvyznWKu4X0b8zsQbAzwJ",
    "60kxXGlGs+BHAgMBAAE="],
  ["MIGEMRIwEAYDVQQFEwlHNjMyODc1MTAxCzAJBgNVBAYTAkVTMScwJQYDVQQKEx5BTkYgQXV0b3JpZGFkIGRlIENlcnRp",
    "ZmljYWNpb24xFDASBgNVBAsTC0FORiBDQSBSYWl6MSIwIAYDVQQDExlBTkYgU2VjdXJlIFNlcnZlciBSb290IENBMIIC",
    "IjANBgkqhkiG9w0BAQEFAAOCAg8AMIICCgKCAgEA2+trK+ZkVJWCkKNypBkBnZwLgV9zSbqnrPMETnuWC+wR4FumHM4b",
    "0g2DHCu4nh1+RTJgDwfpd1h+n2rIYU62JsFMjf9M7zSyH2XYuXj1ralxue9PWB2l3nQgl6HtaEzekhdLvKv/ZZqe+0fZ",
    "V3LzCaGudkQTbpwtRDm8+cc7pFg9Qb20wkmjyA3Sly8HZVIAp27Ir2js9BSWtlcfVsM5nytt5PM+9jVk2gwcoYRLL0tL",
    "4iwknW2TQOu1I44yym9F06iJex7PHvpbQ4vNzagPasoMXrmeR4/w2bYKC1hlFzO5I+R3GX3LSi6Se08vEHexjS9onGLM",
    "4FD47JGnVExXCdV2Y8XoZR7ubWrPCZ36fE+tYAj9VpkPFSx7qYCrjGGPSgd2Qt499N2yJDNbuLWjRMmsf3c8HSPsgqmm",
    "4sgGTAL+rFyZmQsvEIqm9H/Vh3QNWUlF9vBxXDkp1r9KI4v1XwFj0odzKLVLCvX4q4IsfnMlMh0LYwoXgQD/tnZe57Sx",
    "QMohu9WAUeVIUmcs0mGJBw0PzkJ3wERznERQoNsQCi2VHIGv5BzlFB7xNkEBAi99c6feQsxM6YkNVvefkdQDxmzJj9vY",
    "HOBAmF1mmZiAbi3/AcXOy0YfrALGQ+auooQ8xU4ePW3JFEzjLkG7yjm/NjwqGapBh06lzksyed2QSX8CAwEAAQ=="],
  ["MIGFMQswCQYDVQQGEwJHQjEbMBkGA1UECBMSR3JlYXRlciBNYW5jaGVzdGVyMRAwDgYDVQQHEwdTYWxmb3JkMRowGAYD",
    "VQQKExFDT01PRE8gQ0EgTGltaXRlZDErMCkGA1UEAxMiQ09NT0RPIEVDQyBDZXJ0aWZpY2F0aW9uIEF1dGhvcml0eTB2",
    "MBAGByqGSM49AgEGBSuBBAAiA2IABANHey91yYIVhft15JEW1KtimfU+UgsGzkEAf5fhCiQ8HQEE7j3SjQmXDOB15Pr7",
    "d4oq9QNgSzaLFiMWrQlx9Er0KFC0/ogcbj9sLy8JWVulWwszmeLDPYn5aizvstMG6Q=="],
  ["MIGFMQswCQYDVQQGEwJHQjEbMBkGA1UECBMSR3JlYXRlciBNYW5jaGVzdGVyMRAwDgYDVQQHEwdTYWxmb3JkMRowGAYD",
    "VQQKExFDT01PRE8gQ0EgTGltaXRlZDErMCkGA1UEAxMiQ09NT0RPIFJTQSBDZXJ0aWZpY2F0aW9uIEF1dGhvcml0eTCC",
    "AiIwDQYJKoZIhvcNAQEBBQADggIPADCCAgoCggIBAJHoVJLSClaxrA0k3cXPRGd0mSs3o30jcABxvFPfxPoqEo9LfxBW",
    "vZ9wcrdhf8lLDxenPeOwBGHu/xGXx/SGPgr6Plz5k+Y0etkUa+ecs4Wggnp2r3GQ1+z9DfqcbPrfsIL0FH75vsSmL09/",
    "mX+1/GdDcr0MANaJ62ss0+2PmBwUq37l42782KjkkiTaQ2tiuFX96sG8bLaL8w6NmuSbbGmZ+HhIMEXVreENPEVg/DKW",
    "USe8Z8PKLrZr6kbHxyCgsR9l3kgIuqROqfKDRjeE6+jMgUhDZ05yKptcvUwbKIpcInu0q5jZ7uBRg8MJRk5tPpn6lRfa",
    "fDNXQTyNUe0LtlyvLGMa31fIP7zpXcSbr0WZ4qNaJLS6qVY9z2+q/0lYvvCo//S4rek3+7q49As6+ehDQh6J2ITLE/HZ",
    "u+GJYLiMKFasFB2cCudx688O3T2plqFIvTz3r7UNIkzAEYHsVjv206LiW7eyBCJSlYCTaeiOTGXxkQMtcHQC6otnFSlp",
    "UgK7199QalVGv6CjKGF/cNDDoqosIapHziicBkV2v4IYJ7TVrrTLUOZr9EyGcTDppt8WhuDY/0Dd+9BCiH+jMzouXB5B",
    "EYFjzhhxayvspoq3MVw6akfgw3lZ1iAar/JqmKpyvFdK0kuduxD8sExB5e0dPV4onZzMv7NR2qdH5YRTAgMBAAE="],
  ["MIGIMQswCQYDVQQGEwJVUzERMA8GA1UECAwISWxsaW5vaXMxEDAOBgNVBAcMB0NoaWNhZ28xITAfBgNVBAoMGFRydXN0",
    "d2F2ZSBIb2xkaW5ncywgSW5jLjExMC8GA1UEAwwoVHJ1c3R3YXZlIEdsb2JhbCBDZXJ0aWZpY2F0aW9uIEF1dGhvcml0",
    "eTCCAiIwDQYJKoZIhvcNAQEBBQADggIPADCCAgoCggIBALldUShLPDeS0YLOvR29zd24q88KPuFd5dyqCblXAj7mY2Hf",
    "8g+CY66j96xz0XznswuvCAAJWX/NKSqIk4cXGIDtiLK0thAfLdZfVaITXdHG6wZWiYj+rDKd/VzDBcdu7oaJuogDnXIh",
    "hpCujwOl3J+IKMujkkkP7NAP4m1ET4BqstTnoApTAbqOl5F2brz81Ws25kCI1nsvXwXoLG0R8+eyvpJETNKXpP7ScoFD",
    "B5zpET71ixpZfR9oWN0EACyW80OzfpgZdNmcc9kYvkHHNHnZ9GLCQ7mzJ7Aiy/k9UscwR7PJPrhq4ufogXBeQotPJqX+",
    "OsIgbrv4Fo7NDKm0G2x2EOFYeUY+VM6AqFcJNykbmROPDMjWLBz7BegIlT1lRtzuzWniTY+HKE40Cz7PFNm73bZQmq13",
    "1BnW2hqIyE4bJ3XYsgjxroMwuREOzYfwhI0Vcnyh78zyiGG69Gm7DIwLdVcEuE4qFC49DxweMqZiNu5m4iK4BUBjECLz",
    "Mx10coos9TkpoNPnG4CELcU9402x/RpvumUHO1jsQkUm+9jaJXLE9gCxInm943xZYkqcBW89zubWR2OZxiRvchLIrH+Q",
    "tAuRcOi35hYQcRfO3gZPSEF9NUqjifLJS3tBEW1ntwiYTOURGa5CgNz7kAXU+FDKvuStx8KU1xad5hePrzb7AgMBAAE="],
  ["MIGIMQswCQYDVQQGEwJVUzETMBEGA1UECBMKTmV3IEplcnNleTEUMBIGA1UEBxMLSmVyc2V5IENpdHkxHjAcBgNVBAoT",
    "FVRoZSBVU0VSVFJVU1QgTmV0d29yazEuMCwGA1UEAxMlVVNFUlRydXN0IEVDQyBDZXJ0aWZpY2F0aW9uIEF1dGhvcml0",
    "eTB2MBAGByqGSM49AgEGBSuBBAAiA2IABBqsVFqp+Wgj53rVJG9TxlrYS6vG1bbR5nNxrt2c1gxh/dugiQO4BRTsV87u",
    "XT/iIbPO99SKeeCjg34tl9BhxPGZ3CWRY6t/MKO0cOLHoTOc878uXFOxX7N9Mn+KNON5eQ=="],
  ["MIGIMQswCQYDVQQGEwJVUzETMBEGA1UECBMKTmV3IEplcnNleTEUMBIGA1UEBxMLSmVyc2V5IENpdHkxHjAcBgNVBAoT",
    "FVRoZSBVU0VSVFJVU1QgTmV0d29yazEuMCwGA1UEAxMlVVNFUlRydXN0IFJTQSBDZXJ0aWZpY2F0aW9uIEF1dGhvcml0",
    "eTCCAiIwDQYJKoZIhvcNAQEBBQADggIPADCCAgoCggIBAIASZRc2DsPbCLPQrFcNdu3NJ9NMrVCDYeKqIE0JLWQJ3M6J",
    "n8w9qez2z8Hc8dOx1ns3KBErR9o5xrw6GbRfpr19naNjQrZ28qk7K5H44m/Q7BYgkAk+4uh0yRi0kdRiZNt/owbxiBhq",
    "kCI8vP4T8IcUe/bkH47U5FHGEWdGCFHLhhRUP7wz/n5snP8WnRi9UY41pqdmyHJn2yFmsdSbeAPAUDrozPDcvJ5M/q8F",
    "ljUfV1q3/875PbcstvZU3cjnEjpNrkyKt1yatLcgPcp/IjSufjtoZgFE5wFORlObM2D3lL5TN5BzQ/Myw1Pv26r+dE5p",
    "x2uMYJPexMcM3+EyrsyTO1F4lWeL7j1W/gzQaQ8bD/MlJmszbfduR/pzQ+V+DqVmsSl8MoRjVYnEDcGTVDAZE6zTfTen",
    "6106bDVc20HXEtqpSQvf2ICKCZNijrVmzyWIzYS4sT+kOQ/ZAp7rEkyVfPNrBaleFoPMuGfi6BOdzFuC00yz7Vv/3uVz",
    "rCM7LQC/NVV0CUnYSVgaf5I25lGSDvMmfRxNF7zJ7EMm0L9BX0CpRET0medXh55QH1dUqD79dGMvsVBlCeZYQi5DGky0",
    "8CVHWfoEHpPUJkZKUIGy3r54t/xnFeHJV4QeD2PW6WK61l9VLupcxigIBCU5uA4rqfJMlxwHPw1S9e3vL4IPAgMBAAE="],
  ["MIGPMQswCQYDVQQGEwJVUzEQMA4GA1UECBMHQXJpem9uYTETMBEGA1UEBxMKU2NvdHRzZGFsZTElMCMGA1UEChMcU3Rh",
    "cmZpZWxkIFRlY2hub2xvZ2llcywgSW5jLjEyMDAGA1UEAxMpU3RhcmZpZWxkIFJvb3QgQ2VydGlmaWNhdGUgQXV0aG9y",
    "aXR5IC0gRzIwggEiMA0GCSqGSIb3DQEBAQUAA4IBDwAwggEKAoIBAQC97cED/PaP/AKxb1ufSNmdeeKitwNhVhjDR7bX",
    "yj01LolD96Fpm96KGv0TIJy0SXcyKVb9ueyM3SL6ctwnYZfu9lqE7G4ZuYks3IRb1XT7a1/FiaUQUolGVfS4dRzmf+RU",
    "rkv4VXJXAhn4F3FZ6x4oB3TFnUi+bLT0pLDzZDd5ksDsRl5/4W1TTGKvzR8LY7s6nfv8eQCYYXTPJoJAY/OycmoZDZnK",
    "1A51zDf7i4nBWfFif1+zX2Uw+Ke3TXZaHnZeNMDollaZirPwf6TNvdwyMXyRz+BfEfhrqklc0ZmU0aLjY1sJdrVWYuFL",
    "dB2W1CbUCARZ0JgODube/MPsH5DxAgMBAAE="],
  ["MIGRMQswCQYDVQQGEwJVUzERMA8GA1UECBMISWxsaW5vaXMxEDAOBgNVBAcTB0NoaWNhZ28xITAfBgNVBAoTGFRydXN0",
    "d2F2ZSBIb2xkaW5ncywgSW5jLjE6MDgGA1UEAxMxVHJ1c3R3YXZlIEdsb2JhbCBFQ0MgUDI1NiBDZXJ0aWZpY2F0aW9u",
    "IEF1dGhvcml0eTBZMBMGByqGSM49AgEGCCqGSM49AwEHA0IABH77bOYj43MyCMpg5lOcunSNGLB4kFKA3TjASh3RqMyT",
    "pJcGOMoNFWLGjgEqZZ2q3zSRLoHB5DOSMcT9CTqmP60="],
  ["MIGRMQswCQYDVQQGEwJVUzERMA8GA1UECBMISWxsaW5vaXMxEDAOBgNVBAcTB0NoaWNhZ28xITAfBgNVBAoTGFRydXN0",
    "d2F2ZSBIb2xkaW5ncywgSW5jLjE6MDgGA1UEAxMxVHJ1c3R3YXZlIEdsb2JhbCBFQ0MgUDM4NCBDZXJ0aWZpY2F0aW9u",
    "IEF1dGhvcml0eTB2MBAGByqGSM49AgEGBSuBBAAiA2IABGvaDXU1CDFHBa5FmVXxERMuSvgQMSOjfoPTfygIOiYaOs+X",
    "gh+AtycJj9GOMMQKmw6sWASr9zZ9lCOkmwqKi6vr/TklZvFe/oyujUF5nQlgziip04pt89ZF1PKYhDhloA=="],
  ["MIGYMQswCQYDVQQGEwJVUzEQMA4GA1UECBMHQXJpem9uYTETMBEGA1UEBxMKU2NvdHRzZGFsZTElMCMGA1UEChMcU3Rh",
    "cmZpZWxkIFRlY2hub2xvZ2llcywgSW5jLjE7MDkGA1UEAxMyU3RhcmZpZWxkIFNlcnZpY2VzIFJvb3QgQ2VydGlmaWNh",
    "dGUgQXV0aG9yaXR5IC0gRzIwggEiMA0GCSqGSIb3DQEBAQUAA4IBDwAwggEKAoIBAQDVDDrEKvlO4vW+GZdfjohTsR8/",
    "y8+fIBNtKTrID30892t2OGPZNmCom15cAICyL1l/9of5JUOG52kbUpqQ4XHj2C0NTm/2yEnZtvMaVq4rtnQU68/7JuMa",
    "uh2WLmo7WJSJR1b/JaCTcFOD2oR0FMNnngRoOt+OQFodSk7PQ5E751bWAHDLUu57fa4657wx+UX2wmDPE1kCK4DMNEff",
    "ud6QZW0CzyyRpqbn3oUYSXxmTqM6bam17jQuug0DuDPfR+uxa40l2ZvOgdFFRjKWcIfeAg5JQ4W2bHO7ZOphQazJ1FTf",
    "hy/HIrImzJ9ZVGif/L4qL8RVHHVAYBeFAlU5i38FAgMBAAE="],
  ["MIGmMQswCQYDVQQGEwJHUjEPMA0GA1UEBxMGQXRoZW5zMUQwQgYDVQQKEztIZWxsZW5pYyBBY2FkZW1pYyBhbmQgUmVz",
    "ZWFyY2ggSW5zdGl0dXRpb25zIENlcnQuIEF1dGhvcml0eTFAMD4GA1UEAxM3SGVsbGVuaWMgQWNhZGVtaWMgYW5kIFJl",
    "c2VhcmNoIEluc3RpdHV0aW9ucyBSb290Q0EgMjAxNTCCAiIwDQYJKoZIhvcNAQEBBQADggIPADCCAgoCggIBAML4qT8b",
    "ifw8PARdPZA2sJE6eTxmWu9tOQFJGrS3z39NI1O3kADjEyoopjHxkQDjKOyuIUHOH9r9fRJbAYMPubBfmeHyEoOATQY+",
    "36yv56GIazGv8IvQGDO420VqNPQCgCQoCgIVlV52Kg2ZOhRb9svLU7wTTQGIN5QlG0K8ItiOo5ZeOtky2z7o8BBl7XTh",
    "L6d8ryc0uyl9m7bPCcjl0wr8iGVldArccxxczUCxHNS2hIxMUM9ojqhZrsInToKiNd0U9B//snfVhy+qbn0kJ+fGyybm",
    "5f5nB2PYRQ3dOlllOVh6kplyPZyEXoghuNX0LPzZcFJPeLi9PCuLlZj1s9FozyAUfkxcX+eL5fU1gRk31xEIt2a+00rO",
    "g1cAOsOB+BfLkjZd0aPYdRvhiyfqekhB/UUZBq0nmU7BcEfdtZ+BUxLlsYxIXTFDF+OMxnpjlkspME6ETmIZXjzOl5Cl",
    "fwHrneD4i4ndJZg9krZ+79nxUVF9LSbIaVlh4KxquCo2EQR6UL0yhL4v3HLV1x0WR+RHZiA/9JbFr44BeqUPemT1DRiH",
    "2a6I1fqEwTrAaSgt8g1oUarjpXfGpJAOoTeLMSNHwQkI6273eJvXgvyEIJlJGbYSRrH7RVUWqaNlrJwHD+pr3B8uBnLs",
    "hogS5C3bXwUv5PAD0yYz54DCzUKhFzQLAgMBAAE="],
  ["MIGnMQswCQYDVQQGEwJIVTERMA8GA1UEBwwIQnVkYXBlc3QxFTATBgNVBAoMDE5ldExvY2sgS2Z0LjE3MDUGA1UECwwu",
    "VGFuw7pzw610dsOhbnlraWFkw7NrIChDZXJ0aWZpY2F0aW9uIFNlcnZpY2VzKTE1MDMGA1UEAwwsTmV0TG9jayBBcmFu",
    "eSAoQ2xhc3MgR29sZCkgRsWRdGFuw7pzw610dsOhbnkwggEiMA0GCSqGSIb3DQEBAQUAA4IBDwAwggEKAoIBAQDEJF5z",
    "vkttFMOh9OOXkG7SMEUePO5n2WTgGop/yjDKg+MgweP0OtOUXxp8W22/ME+EJ/afH0m8xpkKkPIP9X9DhDdjUYt6pXD8",
    "eljNjpvtw0ZshHBd2vMBkCP8TjCpfuEnY+ftZDyguMkzY/4WkP+wuP3XqMDAlEMLttVZpp5W0CQfcHmv2zlUDWV12RVB",
    "lAGvXuz2jfH/rWT+IJrXXOv+ph8IZKOLdlWtHjsoYC6HJeiqrx/GZEYgt3B/PN5I25ZTtzl35BrixxaEdpdbL7sZFYX4",
    "aYX1maep8jSnqbamA/xvhj1UfHYEm2v5QF0ANMcumXWd5YgDqk34A9JCdsAbAgMAqIs="],
  ["MIGqMQswCQYDVQQGEwJHUjEPMA0GA1UEBxMGQXRoZW5zMUQwQgYDVQQKEztIZWxsZW5pYyBBY2FkZW1pYyBhbmQgUmVz",
    "ZWFyY2ggSW5zdGl0dXRpb25zIENlcnQuIEF1dGhvcml0eTFEMEIGA1UEAxM7SGVsbGVuaWMgQWNhZGVtaWMgYW5kIFJl",
    "c2VhcmNoIEluc3RpdHV0aW9ucyBFQ0MgUm9vdENBIDIwMTUwdjAQBgcqhkjOPQIBBgUrgQQAIgNiAASSoEHoS4KEXOL4",
    "MRGZhmROCSUvnUEvCq41T3SVslFka41r5j9wlfAFREemcjhQdpUCWo6uKJ75LU6Z7yxIb0wlKejRcVvfHcF1N7TX+nt6",
    "QpxqClZafGkLqoAJJGx+wUY="],
  ["MIGwMQswCQYDVQQGEwJVUzEWMBQGA1UEChMNRW50cnVzdCwgSW5jLjE5MDcGA1UECxMwd3d3LmVudHJ1c3QubmV0L0NQ",
    "UyBpcyBpbmNvcnBvcmF0ZWQgYnkgcmVmZXJlbmNlMR8wHQYDVQQLExYoYykgMjAwNiBFbnRydXN0LCBJbmMuMS0wKwYD",
    "VQQDEyRFbnRydXN0IFJvb3QgQ2VydGlmaWNhdGlvbiBBdXRob3JpdHkwggEiMA0GCSqGSIb3DQEBAQUAA4IBDwAwggEK",
    "AoIBAQC2lbZDQvrGbSpvSN+UTDlXBe7DeRFBaDbt7P6aAY+hOCj89xBGZi5NHhqxGk7G0cCViLDJ/zGLMwPbt4N7PiCE",
    "Xu2yViin+OC5QHE3xctHDpcqaMAilWIV20fZ9dAr/4JLya0+3kzbkIBQPwmKhADsMAo9GM37/SpZmiOVFyxFnh9uQ3lt",
    "DFyY/kinxSNHXF79bucetPZoRdGGg1uiio2x4ymA/iVxiK2+vI+sUpZLqlGN5BMxGehOTZ/brLNq1bw5VHHKenp/kN19",
    "HYDZgbtZJsIR/uaT4veA5GX7NDcOKYBwTa84hi6ef1evnheu6xzLKCFfthzY56IEIvnT2tjLAgMBAAE="],
  ["MIG0MRQwEgYDVQQKEwtFbnRydXN0Lm5ldDFAMD4GA1UECxQ3d3d3LmVudHJ1c3QubmV0L0NQU18yMDQ4IGluY29ycC4g",
    "YnkgcmVmLiAobGltaXRzIGxpYWIuKTElMCMGA1UECxMcKGMpIDE5OTkgRW50cnVzdC5uZXQgTGltaXRlZDEzMDEGA1UE",
    "AxMqRW50cnVzdC5uZXQgQ2VydGlmaWNhdGlvbiBBdXRob3JpdHkgKDIwNDgpMIIBIjANBgkqhkiG9w0BAQEFAAOCAQ8A",
    "MIIBCgKCAQEArU1LqRKGsuqjIAcVFmQqK0vRvwtKTY7tgHalZ7d4QMBzQshowNtTK91euHaYNZOLGp18EzoOH1u3Hs/l",
    "JBQesYGpjX24zGtLA/ECDNyrpUAkAH90lKGdCCmziAv1h3edVc3kw37XamSrhRSGlVuXMlBvPci6Zgzj/L24ScF2iUkZ",
    "/cCovYmjZy/Gn7xxGWC4LeksyZB2ZnuU4q941mVTXTzWnLLPKQP5L6RQstRIzgUyVYr9smRMDuSYB3Xbf9+5CFVghTAp",
    "+XtIpGmG4zU/HoZdenoVve8AjhUiVBcAkCaTvA5JaJG/+EfTnZVCwQ5N328mz8MYIWJmQ3DW1cAH4QIDAQAB"],
  ["MIG+MQswCQYDVQQGEwJVUzEWMBQGA1UEChMNRW50cnVzdCwgSW5jLjEoMCYGA1UECxMfU2VlIHd3dy5lbnRydXN0Lm5l",
    "dC9sZWdhbC10ZXJtczE5MDcGA1UECxMwKGMpIDIwMDkgRW50cnVzdCwgSW5jLiAtIGZvciBhdXRob3JpemVkIHVzZSBv",
    "bmx5MTIwMAYDVQQDEylFbnRydXN0IFJvb3QgQ2VydGlmaWNhdGlvbiBBdXRob3JpdHkgLSBHMjCCASIwDQYJKoZIhvcN",
    "AQEBBQADggEPADCCAQoCggEBALqEtnLbngxr4pnpMAGnduoyuJVBGsnaYU5Ycs/+9oJ5v3NhBgqlJ9izX9NFThxy1k4y",
    "8nKKD/eDGdBqgIAARR6wx+eavxJXJxyjaC8Kh71qaw5eZfMcd9XUhY1wIbSzMueLotWGOQKxuNJHzuTJScQ7p977VH1X",
    "vvDobsJ5sjoLVeJQmBYyE1wveFbBwpSz8lrkJ5qfJNfG7NCbJYLjzMLERcWMl3oGayoRn6kKbkg7b9vUERlC948Hv/VT",
    "X5w+9Bcs5mmsTjJMYnfqt+jluzS8GYuunFHnt361U7EzIuVtz3A8Gvrim2e2g/SNpa9iTE3gWKxkNBID+LaNlGMkpHEC",
    "AwEAAQ=="],
  ["MIG+MQswCQYDVQQGEwJVUzEWMBQGA1UEChMNRW50cnVzdCwgSW5jLjEoMCYGA1UECxMfU2VlIHd3dy5lbnRydXN0Lm5l",
    "dC9sZWdhbC10ZXJtczE5MDcGA1UECxMwKGMpIDIwMTUgRW50cnVzdCwgSW5jLiAtIGZvciBhdXRob3JpemVkIHVzZSBv",
    "bmx5MTIwMAYDVQQDEylFbnRydXN0IFJvb3QgQ2VydGlmaWNhdGlvbiBBdXRob3JpdHkgLSBHNDCCAiIwDQYJKoZIhvcN",
    "AQEBBQADggIPADCCAgoCggIBALHsLELu4tEw/6WSR+Itw7pkl23K9w21WcGzy6hoGdivhG0wcF1+8y7SU5nh/h9e2Uiv",
    "XRON2/9jM03TAAK8xPjRBgiUeViKFd4ps/39xE/oquKgO3nNv2tDMt3ZdBC59/Ro1LvQh9WqS4oqbyoEtbKmx6B65kir",
    "0tFZzNZ+I+aXbPBC5dxRSxVB7UlKyd4Ql9Z2we+ltTYUlzXYeCI1Uu9Dvdsn22FWgjTcy4hgDAta5SwBxlSv16rBEHvS",
    "BVq4QJ6Gp8OQhgJWUgl6nNInglNKZVJq9TznqPKcr4u90w7U1F5uh55qPUUd0V0b9OkKrGCZ+4m0/5gsz3wd6QKqBJoe",
    "uNyIbiWzbGb3PJDzV8GzL/Vt8vvKofgpnUaLs2r25mcHvixnCiofWrI+V8TTISFjZVKRG7GZjnl+5uuNANlaqupz6KSC",
    "AkeW/luOVGGj6y9LMLCLI3VyfCE8yPbxdNQce6MFVe67TTsyvpp3Zp6saZAiBx9hOpa+5ZpPzAU8KFnTwQxUqFlhvchy",
    "TOjcn4d/vZxINl6Vow65OCRV/HVm6wLjCDQpSsbjKy8zoNqjhqUSl/2AK9oUQuOSvT7yXV5ndC4ciEcpNF/iMqicJTeM",
    "upgAl4tJlh79JYqs3NrYXXRuZrD/RN+hGMa+SC83lHj4lUo/fxNeXVn9dIZDY3NJAgMBAAE="],
  ["MIG/MQswCQYDVQQGEwJVUzEWMBQGA1UEChMNRW50cnVzdCwgSW5jLjEoMCYGA1UECxMfU2VlIHd3dy5lbnRydXN0Lm5l",
    "dC9sZWdhbC10ZXJtczE5MDcGA1UECxMwKGMpIDIwMTIgRW50cnVzdCwgSW5jLiAtIGZvciBhdXRob3JpemVkIHVzZSBv",
    "bmx5MTMwMQYDVQQDEypFbnRydXN0IFJvb3QgQ2VydGlmaWNhdGlvbiBBdXRob3JpdHkgLSBFQzEwdjAQBgcqhkjOPQIB",
    "BgUrgQQAIgNiAASEE8nQum1Be+Js0OtVX2YCGiT0W4lpR+O4wn3x8gLFn6D2W9WLBhmGT1MQbQckJ6Gg+NVHGWFMfcqT",
    "J+p0DO9vlgn+Y+xwXTatZ3euyZ18VUQ6omNRH/XjYtSpRwc+zCA="],
  ["MIHSMQswCQYDVQQGEwJUUjEYMBYGA1UEBxMPR2ViemUgLSBLb2NhZWxpMUIwQAYDVQQKEzlUdXJraXllIEJpbGltc2Vs",
    "IHZlIFRla25vbG9qaWsgQXJhc3Rpcm1hIEt1cnVtdSAtIFRVQklUQUsxLTArBgNVBAsTJEthbXUgU2VydGlmaWthc3lv",
    "biBNZXJrZXppIC0gS2FtdSBTTTE2MDQGA1UEAxMtVFVCSVRBSyBLYW11IFNNIFNTTCBLb2sgU2VydGlmaWthc2kgLSBT",
    "dXJ1bSAxMIIBIjANBgkqhkiG9w0BAQEFAAOCAQ8AMIIBCgKCAQEAr3UwM6q7a9OZLBI3hNmNe5eA027n/5tQlT6QlVZC",
    "1xl8JoSNkvoBHToP4mQ4t4y86Ij5iySrLqP1N+RAjhgleYN1Hzv/bKjFxlb4tO2KRKOrbEz8HdDc72i9z+SqzvBV96I0",
    "1INrN3wcwv61A+xXzry0tcXtAA9TNypN9E8Mg/uGz8v+jE69h/mniyFXnHrfA2eJLJ2XYacQuFWQfw4tJzh03+f92k4S",
    "400VIgLI4OD8D62K18lUUMw7D8oWgITQUVbDjlZ/iSIzL+aFCr2lqBs23tPcLG07xxO9WSMs5uWk99gL7eqQQESolbuT",
    "1dCANLZGeA4fAJNG4e7p+exPFwIDAQABMGWgYzAJggcuZ292LnRyMAmCBy5rMTIudHIwCYIHLnBvbC50cjAJggcubWls",
    "LnRyMAmCBy50c2sudHIwCYIHLmtlcC50cjAJggcuYmVsLnRyMAmCBy5lZHUudHIwCYIHLm9yZy50cg=="]]

def readAnchor : PathReader TrustAnchor := do
  let subject ← sequence
  let publicKey ← sequence
  let constraints ← if ← atEnd then pure none else some <$> sequence
  return ⟨subject, publicKey, constraints⟩

def anchorOf? (block : List String) : Option TrustAnchor := do
  let bytes ← (Base64.decode (Bytes.ofText (String.join block))).toOption
  (whole .malformed readAnchor bytes).toOption

def anchors : List TrustAnchor := blocks.filterMap anchorOf?

end CertScope.RootProgram
